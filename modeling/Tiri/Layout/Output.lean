import Tiri.Config.OutputNames
import Tiri.Layout.Basic

/-!
# Outputs

A workspace remembers the name of the output it belongs to, and that name is compared without
regard to ASCII case (`OutputName`, `niri-config/src/output.rs`, lines 114–238).
-/

namespace Tiri.Layout

open NiriConfig (OutputName)

/-- `str::eq_ignore_ascii_case`. -/
def eqIgnoreAsciiCase (a b : String) : Bool := NiriConfig.eqIgnoreAsciiCase a.toList b.toList

variable {a b : String}

theorem eqIgnoreAsciiCase_iff :
    eqIgnoreAsciiCase a b = true ↔ a.toList.map Char.toLower = b.toList.map Char.toLower :=
  NiriConfig.eqIgnoreAsciiCase_iff

@[simp] theorem eqIgnoreAsciiCase_refl (a : String) : eqIgnoreAsciiCase a a = true :=
  eqIgnoreAsciiCase_iff.mpr rfl

theorem eqIgnoreAsciiCase_symm (h : eqIgnoreAsciiCase a b = true) :
    eqIgnoreAsciiCase b a = true := by
  rw [eqIgnoreAsciiCase_iff] at h ⊢
  exact h.symm

theorem eqIgnoreAsciiCase_trans {c : String} (h : eqIgnoreAsciiCase a b = true)
    (h' : eqIgnoreAsciiCase b c = true) : eqIgnoreAsciiCase a c = true := by
  rw [eqIgnoreAsciiCase_iff] at h h' ⊢
  exact h.trans h'

/-! ## Outputs -/

/-- An `Output`: a handle, compared by identity, that gives the name. -/
structure Output where
  handle : ℕ
  name : OutputName
  deriving DecidableEq

/-- `output_matches_name` (`utils/mod.rs`, lines 322–325). -/
def outputMatchesName (output : Output) (target : String) : Bool :=
  output.name.matchesTarget target

/-- `struct OutputId`: the name a workspace remembers its output by. -/
structure OutputId where
  name : String
  deriving DecidableEq

namespace OutputId

/-- `OutputId::new`. -/
def new (output : Output) : OutputId := ⟨output.name.formatMakeModelSerialOrConnector⟩

/-- `OutputId::matches`. -/
def matchesOutput (self : OutputId) (output : Output) : Bool :=
  output.name.matchesTarget self.name

end OutputId

/-- What an output tells of itself: its scale, its size and what layer surfaces leave of it. -/
structure OutputGeometry where
  scale : ℚ
  viewSize : Size
  workingArea : Rectangle

end Tiri.Layout
