import TileWalk.Proofs.Map.Outline

/-!
# First come, first placed

A random map is made by redrawing: a place that is taken is drawn again. What comes
of it is the map that the outline of the drawn places describes. The draws are used
up to the last place that is taken, and as long as a tile is to be placed there is
grass for it.
-/

namespace TileWalk

open TileWalk.Random

/-! ## Redrawing -/

namespace MapPlan

variable {size : Nat}

/-- The first place that is accepted among those that answers spell, the number of
places before it, and the answers after it. -/
def seek (accept : Nat × Nat → Bool) (size : Nat) : List Int → Option ((Nat × Nat) × Nat × List Int)
  | [] => none
  | [_] => none
  | column :: row :: rest =>
    if accept (Draws.place size column row) then some (Draws.place size column row, 0, rest)
    else (seek accept size rest).map fun (found, refused, after) => (found, refused + 1, after)

theorem drawGoal_cons (size : Nat) (column row : Int) (rest : List Int) :
    drawGoal size (.scripted (column :: row :: rest)) =
      if Draws.place size column row = (0, 0) then drawGoal size (.scripted rest)
      else some (Draws.place size column row, .scripted rest) := by
  rw [drawGoal]
  rfl

theorem placeOnGrass_cons (size : Nat) (tile : Tile) (grid : Grid) (column row : Int)
    (rest : List Int) :
    placeOnGrass size tile grid (.scripted (column :: row :: rest)) =
      let place := Draws.place size column row
      if isGrass grid place then some (grid.put place.1 place.2 tile, 0, .scripted rest)
      else (placeOnGrass size tile grid (.scripted rest)).map fun (grid, retries, final) =>
        (grid, retries + 1, final) := by
  rw [placeOnGrass]
  rfl

theorem drawGoal_scripted (size : Nat) (answers : List Int) :
    drawGoal size (.scripted answers) =
      (seek (· ≠ (0, 0)) size answers).map fun (goal, _, rest) => (goal, .scripted rest) := by
  induction answers using Draws.places.induct with
  | case1 => rw [drawGoal]; rfl
  | case2 answer => rw [drawGoal]; rfl
  | case3 column row rest ih =>
      rw [drawGoal_cons, seek, ih]
      by_cases origin : Draws.place size column row = (0, 0) <;>
        simp [origin, Function.comp_def]

theorem placeOnGrass_scripted (size : Nat) (tile : Tile) (grid : Grid) (answers : List Int) :
    placeOnGrass size tile grid (.scripted answers) =
      (seek (isGrass grid) size answers).map fun (place, retries, rest) =>
        (grid.put place.1 place.2 tile, retries, .scripted rest) := by
  induction answers using Draws.places.induct with
  | case1 => rw [placeOnGrass]; rfl
  | case2 answer => rw [placeOnGrass]; rfl
  | case3 column row rest ih =>
      rw [placeOnGrass_cons, seek, ih]
      cases grass : isGrass grid (Draws.place size column row) <;>
        simp [grass, Function.comp_def]

section Seek

variable {accept : Nat × Nat → Bool} {answers : List Int}

theorem seek_eq_none (none : seek accept size answers = none) :
    ∀ place ∈ Draws.places size answers, accept place = false := by
  induction answers using Draws.places.induct with
  | case1 => simp [Draws.places]
  | case2 answer => simp [Draws.places]
  | case3 column row rest ih =>
      rw [seek] at none
      split at none
      · cases none
      · next refused =>
          rw [Draws.places, List.forall_mem_cons]
          exact ⟨by simpa using refused, ih (Option.map_eq_none_iff.mp none)⟩

/-- What is found comes after places that were refused. -/
theorem seek_eq_some {place : Nat × Nat} {refused : Nat} {rest : List Int}
    (found : seek accept size answers = some (place, refused, rest)) :
    ∃ skipped, Draws.places size answers = skipped ++ place :: Draws.places size rest ∧
      skipped.length = refused ∧ (∀ other ∈ skipped, accept other = false) ∧
      accept place = true ∧ rest = answers.drop (2 * (refused + 1)) := by
  induction answers using Draws.places.induct generalizing refused with
  | case1 => cases found
  | case2 answer => cases found
  | case3 column row more ih =>
      rw [seek] at found
      split at found
      · next accepted =>
          cases found
          exact ⟨[], rfl, rfl, by simp, accepted, rfl⟩
      · next turned =>
          rcases Option.map_eq_some_iff.mp found with ⟨⟨_, count, _⟩, later, same⟩
          cases same
          rcases ih later with ⟨skipped, split, length, others, accepted, remains⟩
          refine ⟨Draws.place size column row :: skipped, ?_, ?_, ?_, accepted, ?_⟩
          · rw [Draws.places, split]
            rfl
          · rw [List.length_cons, length]
          · exact List.forall_mem_cons.mpr ⟨by simpa using turned, others⟩
          · rw [remains]
            rfl

end Seek

/-! A map is a square of tiles, whatever the draws. -/

theorem placeOnGrass_square {tile : Tile} {grid placed : Grid} {draws rest : Draws} {retries : Nat}
    (square : grid.WellFormed size)
    (done : placeOnGrass size tile grid draws = some (placed, retries, rest)) :
    placed.WellFormed size := by
  induction draws using placeOnGrass.induct size grid generalizing retries with
  | case1 draws none =>
      rw [placeOnGrass] at done
      split at done
      · cases done
      · next found => cases none.symm.trans found
  | case2 draws place rest found _ grass =>
      rw [placeOnGrass] at done
      split at done
      · cases done
      · next again =>
          cases found.symm.trans again
          rw [if_pos grass] at done
          cases done
          exact square.put place.1 place.2 tile
  | case3 draws place rest found _ taken ih =>
      rw [placeOnGrass] at done
      split at done
      · cases done
      · next again =>
          cases found.symm.trans again
          rw [if_neg taken] at done
          rcases Option.map_eq_some_iff.mp done with ⟨_, later, same⟩
          cases same
          exact ih later

theorem placeAll_square {tiles : List Tile} {grid placed : Grid} {draws rest : Draws} {retries : Nat}
    (square : grid.WellFormed size)
    (done : placeAll size tiles grid draws = some (placed, retries, rest)) :
    placed.WellFormed size := by
  induction tiles generalizing grid draws retries with
  | nil =>
      cases done
      exact square
  | cons tile tiles ih =>
      rw [placeAll] at done
      split at done
      · cases done
      · next laid =>
          rcases Option.map_eq_some_iff.mp done with ⟨_, later, same⟩
          cases same
          exact ih (placeOnGrass_square square laid) later

theorem generate_square {plan : MapPlan} {draws : Draws} {made : GeneratedMap}
    (done : plan.generate draws = .ok made) : made.grid.WellFormed plan.size.toNat := by
  rw [generate] at done
  split at done
  · cases done
  dsimp only at done
  split at done
  · cases done
  split at done
  · cases done
  next goal _ _ _ _ _ _ laid =>
    cases done
    exact placeAll_square ((Grid.empty_square _).put goal.1 goal.2 .goal) laid

end MapPlan

namespace MapPlan

variable {size : Nat} (tileAt : Nat × Nat → Tile)

/-- The first place with grass is taken, and the answers up to it are used. -/
theorem placeOnGrass_ofTiles (positive : 0 < size) (tile : Tile) (answers : List Int) :
    (placeOnGrass size tile (Grid.ofTiles size tileAt) (.scripted answers) = none ∧
      ∀ place ∈ Draws.places size answers, tileAt place ≠ .grass) ∨
    ∃ skipped place later, Draws.places size answers = skipped ++ place :: later ∧
      (∀ other ∈ skipped, tileAt other ≠ .grass) ∧ tileAt place = .grass ∧
      later = Draws.places size (answers.drop (2 * (skipped.length + 1))) ∧
      placeOnGrass size tile (Grid.ofTiles size tileAt) (.scripted answers) =
        some (Grid.ofTiles size (Function.update tileAt place tile), skipped.length,
          .scripted (answers.drop (2 * (skipped.length + 1)))) := by
  have inside := Draws.places_inside positive answers
  rw [placeOnGrass_scripted]
  cases sought : seek (isGrass (Grid.ofTiles size tileAt)) size answers with
  | none =>
      refine .inl ⟨rfl, ?_⟩
      intro place membership
      have refused := seek_eq_none sought place membership
      rw [Grid.isGrass_ofTiles (inside place membership)] at refused
      simpa using refused
  | some found =>
      rcases found with ⟨place, retries, rest⟩
      rcases seek_eq_some sought with ⟨skipped, drawn, rfl, refused, accepted, rfl⟩
      have here := inside place (by simp [drawn])
      rw [Grid.isGrass_ofTiles here] at accepted
      refine .inr ⟨skipped, place, _, drawn, ?_, by simpa using accepted, rfl, ?_⟩
      · intro other membership
        have refused := refused other membership
        rw [Grid.isGrass_ofTiles (inside other (by simp [drawn, membership]))] at refused
        simpa using refused
      · simp only [Option.map_some, Grid.put_ofTiles here]

/-- The tiles take the first places with grass, if there are enough of them. -/
theorem placeAll_ofTiles (positive : 0 < size) {tiles : List Tile}
    (solid : ∀ tile ∈ tiles, tile ≠ .grass) (answers : List Int) :
    let places := Draws.places size answers
    let fresh := freshPlaces tileAt places
    (fresh.length < tiles.length ∧
      placeAll size tiles (Grid.ofTiles size tileAt) (.scripted answers) = none) ∨
    (tiles.length ≤ fresh.length ∧ ∃ retries used, Uses tileAt tiles.length places used ∧
      placeAll size tiles (Grid.ofTiles size tileAt) (.scripted answers) =
        some (Grid.ofTiles size (lay tiles fresh tileAt), retries,
          .scripted (answers.drop (2 * used)))) := by
  intro places fresh
  induction tiles generalizing tileAt answers with
  | nil =>
      refine .inr ⟨Nat.zero_le _, 0, 0, ⟨by simp, fun _ _ => Nat.zero_le _⟩, ?_⟩
      cases fresh <;> rfl
  | cons tile tiles ih =>
      rcases List.forall_mem_cons.mp solid with ⟨first, solid⟩
      rcases placeOnGrass_ofTiles tileAt positive tile answers with
        ⟨nowhere, refused⟩ | ⟨skipped, place, later, drawn, refused, grass, after, placed⟩
      · have none : fresh = [] := freshPlaces_refused refused
        exact .inl ⟨by simp [none], by simp [placeAll, nowhere]⟩
      · have split : fresh = place :: freshPlaces (Function.update tileAt place tile) later := by
          simp only [fresh, places, drawn, freshPlaces_split refused grass first]
        simp only [placeAll, placed, split, List.length_cons]
        rcases ih (Function.update tileAt place tile) solid
            (answers.drop (2 * (skipped.length + 1))) with
          ⟨few, none⟩ | ⟨enough, retries, used, uses, found⟩
        · rw [← after] at few
          exact .inl ⟨by omega, by rw [none]; rfl⟩
        · rw [← after] at enough uses found
          refine .inr ⟨by omega, skipped.length + retries, skipped.length + 1 + used, ?_, ?_⟩
          · simp only [places, drawn]
            exact uses.split refused grass first
          · rw [found, List.drop_drop]
            simp [lay, Nat.mul_add]

end MapPlan

/-! ## Making maps -/

namespace MapPlan

variable {size walls water : Nat}

/-- The goal is the first place off the origin, and the answers up to it are used. -/
theorem drawGoal_places (size : Nat) (answers : List Int) :
    (drawGoal size (.scripted answers) = none ∧
      Outline.ofPlaces? (Draws.places size answers) = none) ∨
    ∃ skipped goal later, Draws.places size answers = skipped ++ goal :: later ∧
      (∀ place ∈ skipped, place = (0, 0)) ∧ goal ≠ (0, 0) ∧
      later = Draws.places size (answers.drop (2 * (skipped.length + 1))) ∧
      drawGoal size (.scripted answers) =
        some (goal, .scripted (answers.drop (2 * (skipped.length + 1)))) := by
  rw [drawGoal_scripted]
  cases sought : seek (· ≠ (0, 0)) size answers with
  | none =>
      refine .inl ⟨rfl, Outline.ofPlaces?_origins fun place membership => ?_⟩
      simpa using seek_eq_none sought place membership
  | some found =>
      rcases found with ⟨goal, refused, rest⟩
      rcases seek_eq_some sought with ⟨skipped, drawn, rfl, origins, off, rfl⟩
      refine .inr ⟨skipped, goal, _, drawn, ?_, by simpa using off, rfl, rfl⟩
      simpa using origins

theorem fits_of_counts (large : 2 ≤ size) (room : 1 + walls + water ≤ size * size) :
    ({ size, walls, water } : MapPlan).fits = true := by
  simp only [fits, Bool.and_eq_true, decide_eq_true_eq]
  exact ⟨by omega, by exact_mod_cast room⟩

theorem solid_scattered (plan : MapPlan) : ∀ tile ∈ plan.scattered, tile ≠ .grass := by
  intro tile membership
  rcases List.mem_append.mp membership with wall | water
  · rw [List.eq_of_mem_replicate wall]
    simp
  · rw [List.eq_of_mem_replicate water]
    simp

theorem empty_put_goal {goal : Nat × Nat} (inside : goal.1 < size ∧ goal.2 < size) :
    (Grid.empty size).put goal.1 goal.2 (.tile .goal) =
      Grid.ofTiles size (Outline.goalOnly goal) := by
  rw [Grid.empty_eq_ofTiles, Grid.put_ofTiles inside, Outline.goalOnly]

/-- A map is made of an outline if the places suffice; else the answers run out. -/
theorem generate_scripted (large : 2 ≤ size) (room : 1 + walls + water ≤ size * size)
    (answers : List Int) :
    let plan : MapPlan := { size, walls, water }
    let places := Draws.places size answers
    (¬ Suffice (walls + water) places ∧
      plan.generate (.scripted answers) = .error .drawsExhausted) ∨
    ∃ outline retries used, Outline.ofPlaces? places = some outline ∧
      walls + water ≤ outline.others.length ∧
      IsLeast {taken | Suffice (walls + water) (places.take taken)} used ∧
      plan.generate (.scripted answers) = .ok {
        grid := Grid.ofTiles size (outline.tileAt walls water)
        goal := outline.goal
        retries
        draws := .scripted (answers.drop (2 * used)) } := by
  intro plan places
  have fits : plan.fits = true := fits_of_counts large room
  have count : plan.scattered.length = walls + water := by simp [plan, scattered]
  have inside := Draws.places_inside (by omega : 0 < size) answers
  rcases drawGoal_places size answers with
    ⟨nowhere, unknown⟩ | ⟨skipped, goal, later, drawn, origins, off, after, found⟩
  · refine .inl ⟨?_, by simp [generate, fits, plan, nowhere]⟩
    rintro ⟨outline, known, -⟩
    cases unknown.symm.trans known
  have known : Outline.ofPlaces? places =
      some { goal, others := freshPlaces (Outline.goalOnly goal) later } := by
    simp only [places, drawn, Outline.ofPlaces?_split origins off]
  have start := empty_put_goal (inside goal (by simp [drawn]))
  rcases placeAll_ofTiles (Outline.goalOnly goal) (by omega : 0 < size) (solid_scattered plan)
      (answers.drop (2 * (skipped.length + 1))) with
    ⟨few, nowhere⟩ | ⟨enough, retries, used, uses, placed⟩
  · rw [← after, count] at few
    refine .inl ⟨?_, ?_⟩
    · rintro ⟨outline, same, enough⟩
      cases known.symm.trans same
      exact absurd enough (by simpa using few)
    · simp [generate, fits, plan, found, start, nowhere]
  · rw [← after] at enough uses placed
    rw [count] at enough uses
    refine .inr ⟨_, retries, skipped.length + 1 + used, known, enough, ?_, ?_⟩
    · simp only [places, drawn]
      exact uses.suffice origins off
    · rw [List.drop_drop, ← Nat.mul_add] at placed
      rw [← Outline.lay_scattered]
      simp only [generate, fits, plan, found, start, Int.toNat_natCast, Bool.not_true, placed]
      rfl

/-- All that is left of the draws when answers that do not suffice are continued is left of
the continuation. -/
theorem generate_leaves (large : 2 ≤ size) (room : 1 + walls + water ≤ size * size)
    {answers more : List Int} {made : GeneratedMap}
    (few : ¬ Suffice (walls + water) (Draws.places size answers))
    (completed : ({ size, walls, water } : MapPlan).generate (.scripted (answers ++ more)) = .ok made) :
    ∃ rest, made.draws = .scripted rest ∧ rest <:+ more := by
  rcases generate_scripted large room (answers ++ more) with
    ⟨-, failed⟩ | ⟨outline, retries, used, -, -, least, done⟩
  · cases failed.symm.trans completed
  cases done.symm.trans completed
  have late : answers.length < 2 * used := by
    by_contra early
    have short : used ≤ (Draws.places size answers).length := by
      rw [Draws.length_places]
      omega
    have enough : Suffice _ _ := least.1
    rcases Draws.places_grows size answers more with ⟨rest, same⟩
    rw [← same, List.take_append_of_le_length short] at enough
    exact few (enough.mono (List.take_prefix _ _))
  refine ⟨_, rfl, ?_⟩
  rw [List.drop_append, List.drop_of_length_le late.le, List.nil_append]
  exact List.drop_suffix _ _

/-- Whatever the answers so far, some that are added to them complete the map: those that
spell a goal and then all places. -/
theorem generate_completes (large : 2 ≤ size) (room : 1 + walls + water ≤ size * size)
    (answers : List Int) :
    ∃ more made, ({ size, walls, water } : MapPlan).generate (.scripted (answers ++ more)) = .ok made := by
  let padding : List Int := if answers.length % 2 = 0 then [] else [0]
  let spelled := (1, 0) :: cells size
  have even : (answers ++ padding).length % 2 = 0 := by
    simp only [padding, List.length_append]
    split <;> simp <;> omega
  have inside : ∀ place ∈ spelled, place.1 < size ∧ place.2 < size := by
    rw [List.forall_mem_cons]
    exact ⟨⟨large, Nat.zero_lt_of_lt large⟩, fun place => mem_cells.mp⟩
  have drawn : Draws.places size (answers ++ (padding ++ Draws.spell spelled)) =
      Draws.places size (answers ++ padding) ++ [(1, 0)] ++ cells size := by
    rw [← List.append_assoc, Draws.places_append size even, Draws.places_spell inside]
    simp [spelled]
  refine ⟨padding ++ Draws.spell spelled, ?_⟩
  rcases generate_scripted large room (answers ++ (padding ++ Draws.spell spelled)) with
    ⟨few, -⟩ | ⟨outline, retries, used, -, -, -, done⟩
  · exfalso
    apply few
    rw [drawn]
    rcases Outline.ofPlaces?_cases (Draws.places size (answers ++ padding) ++ [(1, 0)]) with
      ⟨-, origins⟩ | ⟨skipped, goal, later, split, origins, off, -⟩
    · simpa using origins (1, 0) (by simp)
    rw [split, List.append_assoc, List.cons_append]
    refine ⟨_, Outline.ofPlaces?_split origins off, ?_⟩
    -- Every place but the goal's is among the others, as all places are drawn again.
    have all : cells size ⊆ goal :: freshPlaces (Outline.goalOnly goal) (later ++ cells size) := by
      intro place member
      by_cases here : place = goal
      · simp [here]
      · simp [mem_freshPlaces, member, Outline.goalOnly, here]
    have := (List.subperm_of_subset (nodup_cells size) all).length_le
    rw [length_cells, List.length_cons] at this
    show walls + water ≤ (freshPlaces _ _).length
    omega
  · exact ⟨_, done⟩

/-- While tiles are left to be laid, some grass is left for them. -/
theorem grass_left (large : 2 ≤ size) (room : 1 + walls + water ≤ size * size)
    {answers : List Int} {done pending : List Tile} {tile : Tile} {goal : Nat × Nat}
    {rest final : Draws} {grid : Grid} {retries : Nat}
    (order : ({ size, walls, water } : MapPlan).scattered = done ++ tile :: pending)
    (drawn : drawGoal size (.scripted answers) = some (goal, rest))
    (placed : placeAll size done ((Grid.empty size).put goal.1 goal.2 (.tile .goal)) rest =
      some (grid, retries, final)) :
    ∃ place, place.1 < size ∧ place.2 < size ∧ isGrass grid place = true := by
  have inside := Draws.places_inside (by omega : 0 < size) answers
  rcases drawGoal_places size answers with ⟨nowhere, -⟩ | ⟨skipped, _, later, split, -, -, -, found⟩
  · cases nowhere.symm.trans drawn
  cases found.symm.trans drawn
  have solid : ∀ laid ∈ done, laid ≠ .grass := by
    intro laid membership
    apply solid_scattered { size, walls, water } laid
    simp [order, membership]
  have count : done.length + 1 ≤ walls + water := by
    have := congrArg List.length order
    simp [scattered] at this
    omega
  rw [empty_put_goal (inside goal (by simp [split]))] at placed
  rcases placeAll_ofTiles (Outline.goalOnly goal) (by omega : 0 < size) solid
      (answers.drop (2 * (skipped.length + 1))) with
    ⟨-, failed⟩ | ⟨-, _, _, -, laid⟩
  · cases failed.symm.trans placed
  cases laid.symm.trans placed
  -- The goal and the tiles laid so far are fewer than the places of the map.
  let places := Draws.places size (answers.drop (2 * (skipped.length + 1)))
  let fresh := freshPlaces (Outline.goalOnly goal) places
  have few : (goal :: fresh.take done.length).length < size * size := by
    rw [List.length_cons, List.length_take]
    omega
  rcases exists_cell_notMem few with ⟨place, member, free⟩
  rw [List.mem_cons, not_or] at free
  have here := mem_cells.mp member
  refine ⟨place, here.1, here.2, ?_⟩
  rw [Grid.isGrass_ofTiles here, lay_of_notMem free.2]
  simp [Outline.goalOnly, free.1]

/-- A map is laid out by the first distinct places that are drawn: the first one off the
origin is the goal's, and of the later ones the first are for walls and the next for water.
The draws are used up to the last of these places. If they do not suffice, all of them are
used and there is no map; and since some grass is always left for the next tile, some
further draws complete it. -/
theorem generate_first_distinct (large : 2 ≤ size) (room : 1 + walls + water ≤ size * size)
    (answers : List Int) :
    let plan : MapPlan := { size, walls, water }
    let places := Draws.places size answers
    (∀ outline, Outline.ofPlaces? places = some outline → walls + water ≤ outline.others.length →
      ∃ made used, plan.generate (.scripted answers) = .ok made ∧
        made.goal = outline.goal ∧ made.goal ≠ (0, 0) ∧
        made.grid = Grid.ofTiles size (outline.tileAt walls water) ∧
        made.grid.count .goal = 1 ∧ made.grid.count .wall = walls ∧
        made.grid.count .water = water ∧
        made.draws = .scripted (answers.drop (2 * used)) ∧
        IsLeast {taken | Suffice (walls + water) (places.take taken)} used) ∧
    (¬ Suffice (walls + water) places →
      plan.generate (.scripted answers) = .error .drawsExhausted ∧
      ∀ more made, plan.generate (.scripted (answers ++ more)) = .ok made →
        ∃ rest, made.draws = .scripted rest ∧ rest <:+ more) ∧
    (∃ more made, plan.generate (.scripted (answers ++ more)) = .ok made) ∧
    ∀ done tile pending goal rest grid retries final,
      plan.scattered = done ++ tile :: pending →
      drawGoal size (.scripted answers) = some (goal, rest) →
      placeAll size done ((Grid.empty size).put goal.1 goal.2 (.tile .goal)) rest =
        some (grid, retries, final) →
      ∃ place, place.1 < size ∧ place.2 < size ∧ isGrass grid place = true := by
  intro plan places
  refine ⟨?_, ?_, generate_completes large room answers, ?_⟩
  · intro outline known enough
    rcases generate_scripted large room answers with
      ⟨few, -⟩ | ⟨_, retries, used, same, -, least, made⟩
    · exact absurd ⟨outline, known, enough⟩ few
    cases same.symm.trans known
    have inside : places ⊆ cells size := fun place member =>
      mem_cells.mpr (Draws.places_inside (by omega) answers place member)
    rcases Outline.count_tileAt known inside enough with ⟨goals, wall, waters⟩
    exact ⟨_, used, made, rfl, Outline.goal_ne_origin known, rfl, goals, wall, waters, rfl, least⟩
  · intro few
    refine ⟨?_, fun more made => generate_leaves large room few⟩
    rcases generate_scripted large room answers with ⟨-, failed⟩ | ⟨outline, _, _, known, enough, -⟩
    · exact failed
    · exact absurd ⟨outline, known, enough⟩ few
  · intro done tile pending goal rest grid retries final order drawn placed
    exact grass_left large room order drawn placed

/-- A place that is drawn again is taken once. -/
theorem generate_first_distinct_redrawn :
    2 ≤ 2 ∧ 1 + 1 + 1 ≤ 2 * 2 ∧
    ∃ made, ({ size := 2, walls := 1, water := 1 } : MapPlan).generate
        (.scripted [0, 0, 1, 0, 1, 0, 0, 1, 0, 1, 1, 1, 5]) = .ok made ∧
      made.goal = (1, 0) ∧
      made.grid = [[.tile .grass, .tile .goal], [.tile .wall, .tile .water]] := by
  have large : 2 ≤ 2 := by decide
  have room : 1 + 1 + 1 ≤ 2 * 2 := by decide
  have outline := generate_first_distinct large room [0, 0, 1, 0, 1, 0, 0, 1, 0, 1, 1, 1, 5]
  rcases outline.1 { goal := (1, 0), others := [(0, 1), (1, 1)] } rfl (by decide) with
    ⟨made, _, done, goal, -, grid, -⟩
  exact ⟨large, room, made, done, goal, grid.trans (by decide)⟩

end MapPlan

end TileWalk