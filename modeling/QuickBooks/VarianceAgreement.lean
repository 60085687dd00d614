import Mathlib.Algebra.BigOperators.Ring.List
import Mathlib.Data.List.ReduceOption
import Mathlib.Tactic.LinearCombination
import QuickBooks.BuildVariances

/-!
# What a variance prices and what the shelf loses

A reported figure covers every component that has the material.  The shelf loses
it once; the variance prices it once for each of these components.  So the two
agree exactly when no material that stands twice on the sheet is reported with a
figure that is not zero.
-/

namespace QuickBooks

open ExceptPrograms

namespace Mfg

def Component.isOf (materialId : String) : Component → Bool
  | .material known _ _ => known = materialId
  | _ => false

def Component.standardBf (quantity : ℚ) : Component → ℚ
  | .material _ netBf yieldPct => netBf / (yieldPct / 100) * quantity
  | _ => 0

def componentsOf (components : List Component) (materialId : String) : List Component :=
  components.filter (Component.isOf materialId)

def sheetBf (quantity : ℚ) (components : List Component) (materialId : String) : ℚ :=
  ((componentsOf components materialId).map (Component.standardBf quantity)).sum

/-- What a run takes of a material, when it is on the sheet. -/
def usedBf (quantity : ℚ) (actual : List ActualMaterial) (components : List Component)
    (materialId : String) : Option ℚ :=
  if componentsOf components materialId = [] then none
  else some (if isReported actual materialId then reportedBf actual materialId
    else sheetBf quantity components materialId)

def measuredOf (measured : List Measured) (materialId : String) : List Measured :=
  measured.filter fun entry => entry.materialId = materialId

def actualBfOf (measured : List Measured) (materialId : String) : ℚ :=
  ((measuredOf measured materialId).map Measured.actualBf).sum

def standardBfOf (measured : List Measured) (materialId : String) : ℚ :=
  ((measuredOf measured materialId).map Measured.standardBf).sum

/-- The variance prices the board feet that the run takes off the shelf. -/
structure Agrees (prices : MaterialPrices) (measured : List Measured)
    (uses : List (String × ℚ)) : Prop where
  actual : ∀ materialId, actualBfOf measured materialId = (uses.lookup materialId).getD 0
  variance : (measured.map Measured.cost).sum =
    (uses.map fun use =>
      (use.2 - standardBfOf measured use.1) * (prices.perBf use.1).getD 0).sum

variable {rendered : ℚ → String} {quantity : ℚ} {actual : List ActualMaterial}
  {prices : MaterialPrices} {components : List Component}

/-! ### What is taken off the shelf -/

theorem componentsOf_append (first second : List Component) (materialId : String) :
    componentsOf (first ++ second) materialId =
      componentsOf first materialId ++ componentsOf second materialId :=
  List.filter_append ..

/-- The table of uses after some components: one entry for each material among
them, with what the run takes of it. -/
structure Tabulates (quantity : ℚ) (actual : List ActualMaterial) (consumed : List Component)
    (out : List (String × ℚ)) : Prop where
  distinct : (out.map Prod.fst).Nodup
  lookup : ∀ materialId, out.lookup materialId = usedBf quantity actual consumed materialId

theorem Tabulates.skip {consumed : List Component} {component : Component}
    {out : List (String × ℚ)} (tabulates : Tabulates quantity actual consumed out)
    (other : ∀ materialId, component.isOf materialId = false) :
    Tabulates quantity actual (consumed ++ [component]) out := by
  refine ⟨tabulates.distinct, fun materialId => ?_⟩
  have same : componentsOf (consumed ++ [component]) materialId =
      componentsOf consumed materialId := by
    rw [componentsOf_append]
    simp [componentsOf, other materialId]
  rw [tabulates.lookup materialId, usedBf, usedBf, sheetBf, sheetBf, same]

/-- What a component comes to, nothing for one that is no material. -/
def Component.measured (prices : MaterialPrices) (quantity : ℚ) (actual : List ActualMaterial) :
    Component → Option Measured
  | .material materialId netBf yieldPct =>
    some ⟨materialId, netBf / (yieldPct / 100) * quantity,
      if isReported actual materialId then reportedBf actual materialId
      else netBf / (yieldPct / 100) * quantity,
      (prices.perBf materialId).getD 0⟩
  | _ => none

end Mfg

end QuickBooks
