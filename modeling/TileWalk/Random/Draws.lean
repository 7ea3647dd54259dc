import TileWalk.Random.Twister

/-!
# Draws

A source of draws answers with numbers below a bound. It is either a list of answers written down
beforehand or a seeded generator. Every source has a finite supply, which each draw uses up, so
that redrawing until a number fits comes to an end.
-/

namespace TileWalk.Random

inductive Draws where
  /-- Answers in order, each taken modulo the bound. -/
  | scripted (answers : List Int)
  /-- A generator that has this many words left. -/
  | seeded (twister : Twister) (words : Nat)

namespace Draws

/-- The number of words that a seeded source is given. -/
def seededSupply : Nat := Nat.pow 2 60

def ofSeed (seed : Int) : Draws :=
  .seeded (Twister.ofSeed seed) seededSupply

/-- How many answers or words are left. -/
def supply : Draws → Nat
  | .scripted answers => answers.length
  | .seeded _ words => words

def drained : Draws → Draws
  | .scripted _ => .scripted []
  | .seeded twister _ => .seeded twister 0

/-- Takes the top `bits` bits of one word after another until they are below the bound. -/
def seededBelow (bound bits : Nat) : Nat → Twister → Option (Nat × Draws)
  | 0, _ => none
  | words + 1, twister =>
    let (word, after) := twister.next
    let value := word.toNat >>> (32 - bits)
    if value < bound then some (value, .seeded after words) else seededBelow bound bits words after

/-- A number below the bound and the source after it, unless the source runs out. -/
def below (bound : Nat) : Draws → Option (Nat × Draws)
  | .scripted [] => none
  | .scripted (answer :: answers) => some ((answer % bound).toNat, .scripted answers)
  | .seeded twister words => seededBelow bound (bound.log2 + 1) words twister

/-- A column and a row, drawn in that order. -/
def pair (size : Nat) (draws : Draws) : Option ((Nat × Nat) × Draws) :=
  match draws.below size with
  | none => none
  | some (column, rest) =>
    match rest.below size with
    | none => none
    | some (row, final) => some ((column, row), final)

theorem seededBelow_supply {bound bits words value : Nat} {twister : Twister} {rest : Draws}
    (h : seededBelow bound bits words twister = some (value, rest)) : rest.supply < words := by
  induction words generalizing twister with
  | zero => simp [seededBelow] at h
  | succ words ih =>
    simp only [seededBelow] at h
    split at h
    · obtain ⟨_, rfl⟩ := Prod.mk.inj (Option.some.inj h)
      simp [supply]
    · exact Nat.lt_succ_of_lt (ih h)

theorem below_supply {bound value : Nat} {draws rest : Draws}
    (h : draws.below bound = some (value, rest)) : rest.supply < draws.supply := by
  cases draws with
  | scripted answers =>
    cases answers with
    | nil => simp [below] at h
    | cons answer answers =>
      obtain ⟨_, rfl⟩ := Prod.mk.inj (Option.some.inj h)
      simp [supply]
  | seeded twister words => exact seededBelow_supply h

theorem pair_supply {size : Nat} {place : Nat × Nat} {draws rest : Draws}
    (h : draws.pair size = some (place, rest)) : rest.supply < draws.supply := by
  unfold pair at h
  split at h
  · exact absurd h (by simp)
  · next column middle hColumn =>
    split at h
    · exact absurd h (by simp)
    · next row final hRow =>
      obtain ⟨_, rfl⟩ := Prod.mk.inj (Option.some.inj h)
      exact Nat.lt_trans (below_supply hRow) (below_supply hColumn)

end Draws

end TileWalk.Random
