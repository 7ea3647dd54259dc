import Mathlib.Data.List.Dedup
import Mathlib.Data.List.Perm.Subperm
import Mathlib.Data.List.TakeWhile
import Mathlib.Order.Bounds.Basic
import TileWalk.Map.Generation
import TileWalk.Proofs.Map.Square

/-!
# Outlines of maps

What becomes of drawn places can be said without redrawing. The first one off the
origin is the goal's, and of those after it, each where it comes first, the walls take
the first ones and the water the next.
-/

namespace TileWalk

open TileWalk.Random

/-! ## Drawn places -/

def Random.Draws.place (size : Nat) (column row : Int) : Nat × Nat :=
  ((column % size).toNat, (row % size).toNat)

/-- The places that answers spell, read in turn as columns and rows. -/
def Random.Draws.places (size : Nat) : List Int → List (Nat × Nat)
  | [] => []
  | [_] => []
  | column :: row :: rest => place size column row :: places size rest

/-- Places of a map: the goal's, and those that are left for other tiles, in order. -/
structure Outline where
  goal : Nat × Nat
  others : List (Nat × Nat)

namespace Outline

/-- The first place off the origin, and the later ones, each where it comes first. -/
def ofPlaces? (places : List (Nat × Nat)) : Option Outline :=
  match places.dropWhile (· = (0, 0)) with
  | [] => none
  | goal :: later => some { goal, others := (later.filter (· ≠ goal)).eraseDups }

/-- The walls take the first of the other places, and the water the next. -/
def tileAt (outline : Outline) (walls water : Nat) (place : Nat × Nat) : Tile :=
  if place ∈ (outline.others.drop walls).take water then .water
  else if place ∈ outline.others.take walls then .wall
  else if place = outline.goal then .goal
  else .grass

end Outline

/-- The places are enough for a goal and that many other tiles. -/
def Suffice (count : Nat) (places : List (Nat × Nat)) : Prop :=
  ∃ outline, Outline.ofPlaces? places = some outline ∧ count ≤ outline.others.length

/-- The grid with the given tile at each place. -/
def Grid.ofTiles (size : Nat) (tileAt : Nat × Nat → Tile) : Grid :=
  (List.range size).map fun row => (List.range size).map fun column => .tile (tileAt (column, row))

namespace Random.Draws

variable {size : Nat}

theorem places_append (size : Nat) {answers : List Int} (even : answers.length % 2 = 0)
    (more : List Int) :
    places size (answers ++ more) = places size answers ++ places size more := by
  induction answers using places.induct with
  | case1 => rfl
  | case2 answer => simp at even
  | case3 column row rest ih =>
      simp only [List.length_cons] at even
      simp [places, ih (by omega)]

theorem places_grows (size : Nat) (answers more : List Int) :
    places size answers <+: places size (answers ++ more) := by
  induction answers using places.induct with
  | case1 => simp [places]
  | case2 answer => simp [places]
  | case3 column row rest ih => simpa [places] using ih

theorem length_places (size : Nat) (answers : List Int) :
    (places size answers).length = answers.length / 2 := by
  induction answers using places.induct with
  | case1 => rfl
  | case2 answer => simp [places]
  | case3 column row rest ih =>
      simp only [places, List.length_cons, ih]
      omega

theorem place_inside (positive : 0 < size) (column row : Int) :
    (place size column row).1 < size ∧ (place size column row).2 < size := by
  have below (answer : Int) : (answer % size).toNat < size := by
    have := Int.emod_nonneg answer (b := size) (by omega)
    have := Int.emod_lt_of_pos answer (b := size) (by omega)
    omega
  exact ⟨below column, below row⟩

theorem places_inside (positive : 0 < size) (answers : List Int) :
    ∀ place ∈ places size answers, place.1 < size ∧ place.2 < size := by
  induction answers using places.induct with
  | case1 => simp [places]
  | case2 answer => simp [places]
  | case3 column row rest ih =>
      rw [places, List.forall_mem_cons]
      exact ⟨place_inside positive column row, ih⟩

/-- The answers that spell places. -/
def spell (cells : List (Nat × Nat)) : List Int :=
  cells.flatMap fun cell => [(cell.1 : Int), (cell.2 : Int)]

theorem places_spell {cells : List (Nat × Nat)}
    (inside : ∀ cell ∈ cells, cell.1 < size ∧ cell.2 < size) : places size (spell cells) = cells := by
  induction cells with
  | nil => rfl
  | cons cell cells ih =>
      rcases List.forall_mem_cons.mp inside with ⟨here, inside⟩
      have same (part : Nat) (below : part < size) : ((part : Int) % size).toNat = part := by
        rw [Int.emod_eq_of_lt (by omega) (by omega), Int.toNat_natCast]
      simp only [spell, List.flatMap_cons, List.cons_append, List.nil_append, places, place,
        same _ here.1, same _ here.2]
      rw [← spell, ih inside]

end Random.Draws

/-! ## Grids as functions -/

namespace Grid

variable {size : Nat} {tileAt : Nat × Nat → Tile} {place : Nat × Nat}

theorem empty_eq_ofTiles (size : Nat) : empty size = ofTiles size fun _ => .grass := by
  simp [empty, ofTiles]

theorem WellFormed.put {grid : Grid} (square : grid.WellFormed size) (column row : Nat)
    (tile : Tile) : (grid.put column row (.tile tile)).WellFormed size := by
  rcases square with ⟨rows, columns⟩
  refine ⟨by simpa [Grid.put] using rows, ?_⟩
  intro line membership
  rcases List.mem_iff_getElem.mp membership with ⟨index, bound, rfl⟩
  simp only [Grid.put, List.length_modify] at bound
  rcases columns _ (List.getElem_mem bound) with ⟨width, tiles⟩
  simp only [Grid.put, List.getElem_modify]
  split
  · refine ⟨by simpa using width, fun cell member => ?_⟩
    rcases List.mem_or_eq_of_mem_set member with old | rfl
    · exact tiles cell old
    · exact ⟨tile, rfl⟩
  · exact ⟨width, tiles⟩

theorem isGrass_ofTiles (inside : place.1 < size ∧ place.2 < size) :
    MapPlan.isGrass (ofTiles size tileAt) place = decide (tileAt place = .grass) := by
  simp [MapPlan.isGrass, ofTiles, inside]

theorem put_ofTiles (inside : place.1 < size ∧ place.2 < size) (tile : Tile) :
    (ofTiles size tileAt).put place.1 place.2 (.tile tile) =
      ofTiles size (Function.update tileAt place tile) := by
  apply List.ext_getElem
  · simp [put, ofTiles]
  intro row _ _
  apply List.ext_getElem
  · simp [put, ofTiles, List.getElem_modify]
    split <;> simp
  intro column _ _
  simp only [put, ofTiles, List.getElem_modify, List.getElem_map, List.getElem_range,
    Function.update_apply]
  rcases place with ⟨left, top⟩
  by_cases here : top = row
  · by_cases same : left = column
    · simp [here, same]
    · simp [here, same, Ne.symm same]
  · simp [here, Ne.symm here]

end Grid

/-! ## Places on grass -/

/-- The places on which there is grass, each where it comes first. -/
def freshPlaces (tileAt : Nat × Nat → Tile) (places : List (Nat × Nat)) : List (Nat × Nat) :=
  (places.filter (tileAt · = .grass)).eraseDups

/-- The tiles laid on the places, one on each, until either run out. -/
def lay : List Tile → List (Nat × Nat) → (Nat × Nat → Tile) → Nat × Nat → Tile
  | tile :: tiles, place :: places, tileAt => lay tiles places (Function.update tileAt place tile)
  | _, _, tileAt => tileAt

section Fresh

variable {tileAt : Nat × Nat → Tile} {place : Nat × Nat} {tile : Tile}
  {skipped later : List (Nat × Nat)}

theorem nodup_eraseDups {α : Type} [BEq α] [LawfulBEq α] (items : List α) :
    items.eraseDups.Nodup := by
  match items with
  | [] => simp
  | item :: items =>
      rw [List.eraseDups_cons, List.nodup_cons]
      exact ⟨by simp [List.mem_eraseDups], nodup_eraseDups _⟩
termination_by items.length
decreasing_by exact Nat.lt_succ_of_le (List.length_filter_le _ _)

theorem freshPlaces_refused (refused : ∀ other ∈ skipped, tileAt other ≠ .grass) :
    freshPlaces tileAt skipped = [] := by
  have none : skipped.filter (tileAt · = .grass) = [] := by simpa using refused
  simp [freshPlaces, none]

/-- After a tile has been put on the first place with grass, the others are left. -/
theorem freshPlaces_split (refused : ∀ other ∈ skipped, tileAt other ≠ .grass)
    (grass : tileAt place = .grass) (solid : tile ≠ .grass) :
    freshPlaces tileAt (skipped ++ place :: later) =
      place :: freshPlaces (Function.update tileAt place tile) later := by
  have none : skipped.filter (tileAt · = .grass) = [] := by simpa using refused
  have others : (later.filter (tileAt · = .grass)).filter (fun other => !other == place) =
      later.filter (Function.update tileAt place tile · = .grass) := by
    rw [List.filter_filter]
    congr 1
    funext other
    by_cases here : other = place <;> simp [here, solid]
  rw [freshPlaces, freshPlaces, List.filter_append, none, List.nil_append,
    List.filter_cons_of_pos (by simpa using grass), List.eraseDups_cons, others]

theorem freshPlaces_grows (tileAt : Nat × Nat → Tile) {places more : List (Nat × Nat)}
    (earlier : places <+: more) : freshPlaces tileAt places <+: freshPlaces tileAt more := by
  rcases earlier with ⟨rest, rfl⟩
  simp [freshPlaces, List.eraseDups_append]

theorem mem_freshPlaces {places : List (Nat × Nat)} :
    place ∈ freshPlaces tileAt places ↔ place ∈ places ∧ tileAt place = .grass := by
  simp [freshPlaces, List.mem_eraseDups]

theorem lay_append (first rest : List Tile) (places : List (Nat × Nat)) :
    lay (first ++ rest) places tileAt = lay rest (places.drop first.length) (lay first places tileAt) := by
  induction first generalizing places tileAt with
  | nil => rfl
  | cons tile first ih =>
      cases places with
      | nil => cases rest <;> simp [lay]
      | cons place places => simpa [lay] using ih places

theorem lay_of_notMem {tiles : List Tile} {places : List (Nat × Nat)}
    (apart : place ∉ places.take tiles.length) : lay tiles places tileAt place = tileAt place := by
  induction tiles generalizing places tileAt with
  | nil => cases places <;> rfl
  | cons tile tiles ih =>
      cases places with
      | nil => rfl
      | cons other places =>
          simp only [List.length_cons, List.take_succ_cons, List.mem_cons, not_or] at apart
          rw [lay, ih apart.2, Function.update_of_ne apart.1]

theorem lay_replicate (count : Nat) (tile : Tile) (places : List (Nat × Nat)) :
    lay (List.replicate count tile) places tileAt place =
      if place ∈ places.take count then tile else tileAt place := by
  induction count generalizing places tileAt with
  | zero => cases places <;> simp [lay]
  | succ count ih =>
      cases places with
      | nil => simp [List.replicate_succ, lay]
      | cons other places =>
          rw [List.replicate_succ, lay, ih, List.take_succ_cons]
          by_cases here : place = other <;> simp [here]

/-- So many places, taken from the front, hold just enough places with grass. -/
def Uses (tileAt : Nat × Nat → Tile) (count : Nat) (places : List (Nat × Nat)) (used : Nat) : Prop :=
  IsLeast {taken | count ≤ (freshPlaces tileAt (places.take taken)).length} used

/-- The least number of places that are enough, when the first ones are of no use. -/
theorem isLeast_take_split (enough rest : List (Nat × Nat) → Prop) {used : Nat}
    (useless : ∀ taken ≤ skipped.length, ¬ enough (skipped.take taken))
    (beyond : ∀ more, enough (skipped ++ place :: more) ↔ rest more)
    (least : IsLeast {taken | rest (later.take taken)} used) :
    IsLeast {taken | enough ((skipped ++ place :: later).take taken)}
      (skipped.length + 1 + used) := by
  have take (more : Nat) : (skipped ++ place :: later).take (skipped.length + 1 + more) =
      skipped ++ place :: later.take more := by
    rw [List.take_append, List.take_of_length_le (by omega)]
    congr 1
    rw [show skipped.length + 1 + more - skipped.length = more + 1 by omega, List.take_succ_cons]
  constructor
  · show enough _
    rw [take]
    exact (beyond _).mpr least.1
  · intro taken served
    replace served : enough _ := served
    by_cases early : taken ≤ skipped.length
    · rw [List.take_append_of_le_length early] at served
      exact absurd served (useless taken early)
    · obtain ⟨more, rfl⟩ : ∃ more, taken = skipped.length + 1 + more :=
        ⟨taken - (skipped.length + 1), by omega⟩
      rw [take] at served
      have : used ≤ more := least.2 ((beyond _).mp served)
      omega

theorem Uses.split {count used : Nat} (refused : ∀ other ∈ skipped, tileAt other ≠ .grass)
    (grass : tileAt place = .grass) (solid : tile ≠ .grass)
    (uses : Uses (Function.update tileAt place tile) count later used) :
    Uses tileAt (count + 1) (skipped ++ place :: later) (skipped.length + 1 + used) := by
  apply isLeast_take_split (fun places => count + 1 ≤ (freshPlaces tileAt places).length)
    (fun places => count ≤ (freshPlaces (Function.update tileAt place tile) places).length) _ _ uses
  · intro taken _
    rw [freshPlaces_refused fun other membership => refused other (List.mem_of_mem_take membership)]
    simp
  · intro more
    simp [freshPlaces_split refused grass solid]

end Fresh

/-! ## Outlines -/

namespace Outline

variable {places : List (Nat × Nat)} {outline : Outline}

/-- The tiles of a map with a goal and nothing else. -/
def goalOnly (goal : Nat × Nat) : Nat × Nat → Tile :=
  Function.update (fun _ => .grass) goal .goal

theorem freshPlaces_goalOnly (goal : Nat × Nat) (places : List (Nat × Nat)) :
    freshPlaces (goalOnly goal) places = (places.filter (· ≠ goal)).eraseDups := by
  rw [freshPlaces]
  congr 2
  funext place
  by_cases here : place = goal <;> simp [goalOnly, here]

theorem ofPlaces?_origins (origins : ∀ place ∈ places, place = (0, 0)) : ofPlaces? places = none := by
  have none : places.dropWhile (· = (0, 0)) = [] := by
    rw [List.dropWhile_eq_nil_iff]
    simpa using origins
  rw [ofPlaces?, none]

theorem ofPlaces?_split {skipped later : List (Nat × Nat)} {goal : Nat × Nat}
    (origins : ∀ place ∈ skipped, place = (0, 0)) (off : goal ≠ (0, 0)) :
    ofPlaces? (skipped ++ goal :: later) =
      some { goal, others := freshPlaces (goalOnly goal) later } := by
  have rest : (skipped ++ goal :: later).dropWhile (· = (0, 0)) = goal :: later := by
    rw [List.dropWhile_append_of_pos (by simpa using origins),
      List.dropWhile_cons_of_neg (by simpa using off)]
  rw [ofPlaces?, rest, freshPlaces_goalOnly]

/-- Without a goal all places are at the origin; the goal is the first that is not. -/
theorem ofPlaces?_cases (places : List (Nat × Nat)) :
    (ofPlaces? places = none ∧ ∀ place ∈ places, place = (0, 0)) ∨
    ∃ skipped goal later, places = skipped ++ goal :: later ∧
      (∀ place ∈ skipped, place = (0, 0)) ∧ goal ≠ (0, 0) ∧
      ofPlaces? places = some { goal, others := freshPlaces (goalOnly goal) later } := by
  induction places with
  | nil => exact .inl ⟨rfl, by simp⟩
  | cons place places ih =>
      by_cases origin : place = (0, 0)
      · rcases ih with ⟨none, origins⟩ | ⟨skipped, goal, later, rfl, origins, off, -⟩
        · have all : ∀ other ∈ place :: places, other = (0, 0) := by simpa [origin] using origins
          exact .inl ⟨ofPlaces?_origins all, all⟩
        · have all : ∀ other ∈ place :: skipped, other = (0, 0) := by simpa [origin] using origins
          exact .inr ⟨place :: skipped, goal, later, rfl, all, off, ofPlaces?_split all off⟩
      · have none : ∀ other ∈ ([] : List (Nat × Nat)), other = (0, 0) := by simp
        exact .inr ⟨[], place, places, rfl, none, origin, ofPlaces?_split none origin⟩

theorem others_nodup (known : ofPlaces? places = some outline) : outline.others.Nodup := by
  rcases ofPlaces?_cases places with ⟨none, -⟩ | ⟨skipped, goal, later, -, -, -, found⟩
  · cases none.symm.trans known
  · cases found.symm.trans known
    exact nodup_eraseDups _

theorem goal_ne_origin (known : ofPlaces? places = some outline) : outline.goal ≠ (0, 0) := by
  rcases ofPlaces?_cases places with ⟨none, -⟩ | ⟨skipped, goal, later, -, -, off, found⟩
  · cases none.symm.trans known
  · cases found.symm.trans known
    exact off

theorem mem_places (known : ofPlaces? places = some outline) :
    outline.goal ∈ places ∧ ∀ place ∈ outline.others, place ∈ places ∧ place ≠ outline.goal := by
  rcases ofPlaces?_cases places with ⟨none, -⟩ | ⟨skipped, goal, later, rfl, -, -, found⟩
  · cases none.symm.trans known
  · cases found.symm.trans known
    refine ⟨by simp, ?_⟩
    intro place membership
    rw [freshPlaces_goalOnly, List.mem_eraseDups, List.mem_filter] at membership
    exact ⟨by simp [membership.1], by simpa using membership.2⟩

/-- The outline says where the tiles are that a plan lays. -/
theorem lay_scattered (outline : Outline) (walls water : Nat) :
    lay (List.replicate walls .wall ++ List.replicate water .water) outline.others
      (goalOnly outline.goal) = outline.tileAt walls water := by
  funext place
  rw [lay_append, lay_replicate, List.length_replicate, lay_replicate]
  simp [tileAt, goalOnly, Function.update_apply]

end Outline

theorem Suffice.mono {count : Nat} {places more : List (Nat × Nat)} (enough : Suffice count places)
    (earlier : places <+: more) : Suffice count more := by
  rcases enough with ⟨outline, known, enough⟩
  rcases Outline.ofPlaces?_cases places with ⟨none, -⟩ | ⟨skipped, goal, later, rfl, origins, off, found⟩
  · cases none.symm.trans known
  · cases found.symm.trans known
    rcases earlier with ⟨rest, rfl⟩
    refine ⟨_, by rw [List.append_assoc, List.cons_append, Outline.ofPlaces?_split origins off], ?_⟩
    exact enough.trans (freshPlaces_grows _ (List.prefix_append later rest)).length_le

/-- The goal takes the places up to the first one off the origin. -/
theorem Uses.suffice {skipped later : List (Nat × Nat)} {goal : Nat × Nat} {count used : Nat}
    (origins : ∀ place ∈ skipped, place = (0, 0)) (off : goal ≠ (0, 0))
    (uses : Uses (Outline.goalOnly goal) count later used) :
    IsLeast {taken | Suffice count ((skipped ++ goal :: later).take taken)}
      (skipped.length + 1 + used) := by
  apply isLeast_take_split (Suffice count)
    (fun places => count ≤ (freshPlaces (Outline.goalOnly goal) places).length) _ _ uses
  · rintro taken - ⟨outline, known, -⟩
    rw [Outline.ofPlaces?_origins fun place membership =>
      origins place (List.mem_of_mem_take membership)] at known
    cases known
  · intro more
    simp [Suffice, Outline.ofPlaces?_split origins off]

/-! ## Counting -/

section Counting

variable {size : Nat}

/-- All places of a map, row by row. -/
def cells (size : Nat) : List (Nat × Nat) :=
  (List.range size).flatMap fun row => (List.range size).map fun column => (column, row)

theorem mem_cells {place : Nat × Nat} :
    place ∈ cells size ↔ place.1 < size ∧ place.2 < size := by
  rcases place with ⟨column, row⟩
  simp [cells, and_comm]

theorem length_cells (size : Nat) : (cells size).length = size * size := by
  simp [cells, List.length_flatMap]

theorem nodup_cells (size : Nat) : (cells size).Nodup := by
  rw [cells, List.nodup_flatMap]
  constructor
  · intro row _
    exact (List.nodup_range).map fun left right same => congrArg Prod.fst same
  · apply List.nodup_range.imp
    intro upper lower different place above below
    simp only [List.mem_map] at above below
    rcases above with ⟨_, _, rfl⟩
    rcases below with ⟨_, _, same⟩
    exact different (congrArg Prod.snd same).symm

/-- A tile is counted where it is. -/
theorem Grid.count_ofTiles {tileAt : Nat × Nat → Tile} {tile : Tile} (places : List (Nat × Nat))
    (distinct : places.Nodup)
    (here : ∀ place, place ∈ places ↔ place ∈ cells size ∧ tileAt place = tile) :
    (ofTiles size tileAt).count tile = places.length := by
  have flat : (ofTiles size tileAt).flatten = (cells size).map fun place => .tile (tileAt place) := by
    simp [ofTiles, cells, List.flatMap_def, Function.comp_def, List.map_flatten]
  have same : ((cells size).filter (tileAt · = tile)).Perm places := by
    rw [List.perm_ext_iff_of_nodup ((nodup_cells size).filter _) distinct]
    simp [here]
  rw [← same.length_eq, count, flat, List.count, List.countP_map, List.countP_eq_length_filter]
  congr 2
  funext place
  rw [Bool.eq_iff_iff]
  simp

/-- A few places are not all places. -/
theorem exists_cell_notMem {taken : List (Nat × Nat)} (few : taken.length < size * size) :
    ∃ place ∈ cells size, place ∉ taken := by
  by_contra all
  push Not at all
  have : (cells size).length ≤ taken.length :=
    (List.subperm_of_subset (nodup_cells size) all).length_le
  rw [length_cells] at this
  omega

namespace Outline

variable {outline : Outline} {walls water : Nat} {place : Nat × Nat}

theorem tileAt_eq_water :
    outline.tileAt walls water place = .water ↔ place ∈ (outline.others.drop walls).take water := by
  unfold tileAt
  split_ifs with late
  all_goals simp [late]

theorem tileAt_eq_wall (distinct : outline.others.Nodup) :
    outline.tileAt walls water place = .wall ↔ place ∈ outline.others.take walls := by
  have apart : place ∈ outline.others.take walls →
      place ∉ (outline.others.drop walls).take water := by
    intro early late
    rw [← List.take_append_drop walls outline.others, List.nodup_append] at distinct
    exact distinct.2.2 place early place (List.mem_of_mem_take late) rfl
  unfold tileAt
  split_ifs with late early
  · simpa using fun early => apart early late
  all_goals simp [early]

theorem tileAt_eq_goal (apart : outline.goal ∉ outline.others) :
    outline.tileAt walls water place = .goal ↔ place = outline.goal := by
  have off : place ∈ outline.others → place ≠ outline.goal := by
    rintro membership rfl
    exact apart membership
  unfold tileAt
  split_ifs with late early here
  · simpa using off (List.mem_of_mem_drop (List.mem_of_mem_take late))
  · simpa using off (List.mem_of_mem_take early)
  all_goals simp [here]

/-- The tiles of an outlined map are counted where they are laid. -/
theorem count_tileAt {places : List (Nat × Nat)} (known : ofPlaces? places = some outline)
    (inside : places ⊆ cells size) (enough : walls + water ≤ outline.others.length) :
    let grid := Grid.ofTiles size (outline.tileAt walls water)
    grid.count .goal = 1 ∧ grid.count .wall = walls ∧ grid.count .water = water := by
  rcases mem_places known with ⟨goal, others⟩
  have distinct := others_nodup known
  have drawn : ∀ place ∈ outline.others, place ∈ cells size :=
    fun place membership => inside (others place membership).1
  refine ⟨?_, ?_, ?_⟩
  · apply Grid.count_ofTiles [outline.goal] (List.nodup_singleton outline.goal)
    intro place
    rw [tileAt_eq_goal fun membership => (others _ membership).2 rfl, List.mem_singleton]
    constructor
    · rintro rfl
      exact ⟨inside goal, rfl⟩
    · exact And.right
  · rw [Grid.count_ofTiles (outline.others.take walls) distinct.take, List.length_take]
    · omega
    intro place
    rw [tileAt_eq_wall distinct]
    exact ⟨fun here => ⟨drawn place (List.mem_of_mem_take here), here⟩, And.right⟩
  · rw [Grid.count_ofTiles ((outline.others.drop walls).take water) distinct.drop.take,
      List.length_take, List.length_drop]
    · omega
    intro place
    rw [tileAt_eq_water]
    exact ⟨fun here => ⟨drawn place (List.mem_of_mem_drop (List.mem_of_mem_take here)), here⟩,
      And.right⟩

end Outline

end Counting

end TileWalk
