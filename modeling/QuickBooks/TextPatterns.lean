import Mathlib.Data.List.Infix

/-!
# Matches in a text

A scan takes the matches in a text from left to right, none overlapping another.
A pattern is read with backtracking: it gives the places where a match that begins
at a position may end, the preferred one first.
-/

namespace TextPatterns

/-- A match, from where it begins up to where it ends. -/
structure Hit (β : Type) where
  start : Nat
  stop : Nat
  found : β

def Hit.Touches {β γ : Type} (first : Hit β) (second : Hit γ) : Prop :=
  first.start < second.stop ∧ second.start < first.stop

instance {β γ : Type} (first : Hit β) (second : Hit γ) : Decidable (first.Touches second) :=
  inferInstanceAs (Decidable (_ ∧ _))

section Scans

variable {β : Type} (matchAt : Nat → Option (Nat × β))

/-- The matches from a position on; the next one begins where the last one ended. -/
def scanFrom : (fuel start : Nat) → List (Hit β)
  | 0, _ => []
  | fuel + 1, start =>
    match matchAt start with
    | some (stop, found) => ⟨start, stop, found⟩ :: scanFrom fuel (max stop (start + 1))
    | none => scanFrom fuel (start + 1)

def scan (length : Nat) : List (Hit β) :=
  scanFrom matchAt length 0

variable {matchAt}

theorem exists_hit_scanFrom {fuel start position : Nat} (after : start ≤ position)
    (reached : position < start + fuel) (begins : (matchAt position).isSome)
    (proper : ∀ stop found, matchAt position = some (stop, found) → position < stop) :
    ∃ hit ∈ scanFrom matchAt fuel start, hit.start ≤ position ∧ position < hit.stop := by
  induction fuel generalizing start with
  | zero => omega
  | succ fuel ih =>
    cases here : matchAt start with
    | none =>
      have later : start ≠ position := by
        rintro rfl
        rw [here] at begins
        cases begins
      obtain ⟨hit, hitMem, covers⟩ := @ih (start + 1) (by omega) (by omega)
      exact ⟨hit, by simpa only [scanFrom, here] using hitMem, covers⟩
    | some result =>
      obtain ⟨stop, found⟩ := result
      by_cases within : position < stop
      · exact ⟨⟨start, stop, found⟩, by simp [scanFrom, here], after, within⟩
      · have later : start ≠ position := by
          rintro rfl
          exact within (proper stop found here)
        obtain ⟨hit, hitMem, covers⟩ := @ih (max stop (start + 1)) (by omega) (by omega)
        exact ⟨hit, by simp [scanFrom, here, hitMem], covers⟩

theorem exists_hit_scan {length position : Nat} (within : position < length)
    (begins : (matchAt position).isSome)
    (proper : ∀ stop found, matchAt position = some (stop, found) → position < stop) :
    ∃ hit ∈ scan matchAt length, hit.start ≤ position ∧ position < hit.stop :=
  exists_hit_scanFrom (Nat.zero_le _) (by omega) begins proper

end Scans

/-! ### Patterns -/

/-- A regular expression with tests of the characters beside a position. -/
inductive Pattern where
  | one (test : Char → Bool)
  | sequence (first second : Pattern)
  | either (first second : Pattern)
  | repeated (item : Pattern) (least : Nat) (most : Option Nat)
  | notBehind (test : Char → Bool)
  | notAhead (test : Char → Bool)

/-- Where as many repetitions as possible may end, then where fewer may. -/
def repeatedEnds (once : Nat → List Nat) : (most least start : Nat) → List Nat
  | 0, least, start => if least = 0 then [start] else []
  | most + 1, least, start =>
    ((once start).filter fun stop => start < stop).flatMap
        (repeatedEnds once most (least - 1)) ++
      if least = 0 then [start] else []

namespace Pattern

/-- Where a match that begins at a position may end. -/
def ends (text : List Char) : Pattern → Nat → List Nat
  | one test, start => if (text[start]?).any test then [start + 1] else []
  | sequence first second, start => (first.ends text start).flatMap (second.ends text)
  | either first second, start => first.ends text start ++ second.ends text start
  | repeated item least most, start =>
    repeatedEnds (item.ends text) (most.getD text.length) least start
  | notBehind test, start => if start ≠ 0 && (text[start - 1]?).any test then [] else [start]
  | notAhead test, start => if (text[start]?).any test then [] else [start]

def findAll (pattern : Pattern) (text : String) : List (Hit String) :=
  scan (fun start => ((pattern.ends text.toList start).head?).map fun stop =>
    (stop, String.ofList ((text.toList.drop start).take (stop - start)))) text.toList.length

def search (pattern : Pattern) (text : String) : Bool :=
  !(pattern.findAll text).isEmpty

end Pattern

end TextPatterns
