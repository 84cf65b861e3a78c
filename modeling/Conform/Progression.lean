namespace Conform

/-- The integers `start`, `start + step`, … as many as `count`. -/
structure Progression where
  start : Int
  step : Int
  count : Nat
deriving DecidableEq

namespace Progression

/-- The integers from `start` towards `stop`, which is left out. -/
def ofBounds (start stop step : Int) : Progression where
  start := start
  step := step
  count :=
    if 0 < step then ((stop - start + step - 1) / step).toNat
    else if step < 0 then ((start - stop - step - 1) / -step).toNat
    else 0

def item (progression : Progression) (place : Nat) : Int :=
  progression.start + (place : Int) * progression.step

def toList (progression : Progression) : List Int :=
  (List.range progression.count).map progression.item

/-- Equal lists of integers: the step matters only between two of them. -/
def agrees (left right : Progression) : Bool :=
  left.count = right.count &&
    (left.count = 0 || (left.start = right.start &&
      (left.count = 1 || left.step = right.step)))

def holds (progression : Progression) (value : Int) : Bool :=
  let offset := value - progression.start
  if progression.step = 0 then offset = 0 && progression.count ≠ 0
  else
    offset % progression.step = 0 && 0 ≤ offset / progression.step &&
      offset / progression.step < progression.count

theorem length_toList (progression : Progression) :
    progression.toList.length = progression.count := by
  simp [toList]

theorem getElem?_toList (progression : Progression) (place : Nat)
    (inside : place < progression.count) :
    progression.toList[place]? = some (progression.item place) := by
  simp [toList, inside]

theorem mem_toList (progression : Progression) (value : Int) :
    value ∈ progression.toList ↔ ∃ place < progression.count, progression.item place = value := by
  simp [toList]

theorem holds_iff (progression : Progression) (value : Int) :
    progression.holds value = true ↔ value ∈ progression.toList := by
  rw [mem_toList]
  by_cases still : progression.step = 0
  · simp only [holds, item, still, if_true, Int.mul_zero, Int.add_zero, Bool.and_eq_true,
      decide_eq_true_eq]
    constructor
    · intro ⟨same, filled⟩
      exact ⟨0, by omega, by omega⟩
    · intro ⟨place, inside, same⟩
      omega
  · simp only [holds, item, still, if_false, Bool.and_eq_true, decide_eq_true_eq]
    constructor
    · intro ⟨⟨divides, positive⟩, below⟩
      have exact := Int.mul_ediv_cancel' (Int.dvd_of_emod_eq_zero divides)
      refine ⟨((value - progression.start) / progression.step).toNat, by omega, ?_⟩
      rw [Int.toNat_of_nonneg positive, Int.mul_comm, exact]
      omega
    · intro ⟨place, inside, same⟩
      have offset : value - progression.start = (place : Int) * progression.step := by omega
      rw [offset, Int.mul_emod_left, Int.mul_ediv_cancel _ still]
      omega

theorem agrees_iff (left right : Progression) :
    left.agrees right = true ↔ left.toList = right.toList := by
  constructor
  · intro alike
    simp only [agrees, Bool.and_eq_true, Bool.or_eq_true, decide_eq_true_eq] at alike
    obtain ⟨counts, none | ⟨starts, one | steps⟩⟩ := alike
    · simp [toList, ← counts, none]
    · simp [toList, ← counts, one, item, starts]
    · simp [toList, ← counts, item, starts, steps]
  · intro same
    have counts : left.count = right.count := by
      rw [← length_toList left, ← length_toList right, same]
    have items (place : Nat) (inside : place < left.count) :
        left.item place = right.item place := by
      have found := congrArg (fun items => items[place]?) same
      simpa [getElem?_toList, inside, counts ▸ inside] using found
    simp only [agrees, Bool.and_eq_true, Bool.or_eq_true, decide_eq_true_eq]
    refine ⟨counts, ?_⟩
    by_cases none : left.count = 0
    · exact Or.inl none
    · have first := items 0 (by omega)
      simp only [item, Int.natCast_zero, Int.zero_mul, Int.add_zero] at first
      refine Or.inr ⟨first, ?_⟩
      by_cases one : left.count = 1
      · exact Or.inl one
      · have second := items 1 (by omega)
        simp only [item] at second
        exact Or.inr (by omega)

example : (ofBounds 0 7 3).toList = [0, 3, 6] ∧ (ofBounds 5 0 (-2)).toList = [5, 3, 1] := by
  decide

example : (ofBounds 0 3 2).agrees (ofBounds 0 4 2) = true := by decide

end Progression

end Conform
