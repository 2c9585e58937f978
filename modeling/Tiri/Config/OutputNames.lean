import Tiri.Lib.Utf8

/-!
# Which texts name an output

An output is known by its connector, and by its make, model and serial where the monitor tells
them.  `OutputName::matches` (`niri-config/src/output.rs`, lines 190–237) compares its target with
make, model and serial without building the text that they make up: it cuts the target by bytes,
wherever the words would end.

Results:
* `matchesTarget_iff`: the comparison word by word is the comparison with either of the two full
  names;
* `stripSliced_eq`: the cuts are inside of the target and between characters, and what is left is
  what a comparison by characters leaves;
* `matchesSliced_eq`: so `matches` returns, and is the comparison by characters;
* `matchesSliced_documented`: it accepts the connector and the documented text, and nothing else.
-/

namespace Tiri.NiriConfig

open Option List

structure OutputName where
  connector : String
  make : Option String
  model : Option String
  serial : Option String
  deriving DecidableEq

/-- `str::eq_ignore_ascii_case`. -/
def eqIgnoreAsciiCase (a b : List Char) : Bool := a.map Char.toLower = b.map Char.toLower

/-- What follows the word and a space. -/
def stripWord (word target : List Char) : Option (List Char) :=
  if eqIgnoreAsciiCase (target.take word.length) word then
    match target.drop word.length with
    | ' ' :: rest => some rest
    | _ => none
  else none

namespace OutputName

variable (name : OutputName)

/-- There is neither make, nor model, nor serial. -/
def isMissing : Bool :=
  name.make.isNone && name.model.isNone && name.serial.isNone

def formatMakeModelSerial : String :=
  let make := name.make.getD "Unknown"
  let model := name.model.getD "Unknown"
  let serial := name.serial.getD "Unknown"
  s!"{make} {model} {serial}"

def formatMakeModelSerialOrConnector : String :=
  if name.isMissing then name.connector else name.formatMakeModelSerial

/-- `OutputName::matches`. -/
def matchesTarget (target : String) : Bool :=
  if eqIgnoreAsciiCase target.toList name.connector.toList then true
  else if name.isMissing then false
  else
    -- Match by "make model serial" with Unknown if something is missing.
    match stripWord (name.make.getD "Unknown").toList target.toList with
    | none => false
    | some rest =>
      match stripWord (name.model.getD "Unknown").toList rest with
      | none => false
      | some rest => eqIgnoreAsciiCase rest (name.serial.getD "Unknown").toList

/-- `OutputName::compare`. -/
def compare (self other : OutputName) : Ordering :=
  match self.isMissing, other.isMissing with
  | true, true => Ord.compare self.connector other.connector
  | true, false => .gt
  | false, true => .lt
  | false, false =>
    (Ord.compare self.make other.make).then
      ((Ord.compare self.model other.model).then
        ((Ord.compare self.serial other.serial).then
          (Ord.compare self.connector other.connector)))

end OutputName

variable {a b : List Char}

theorem eqIgnoreAsciiCase_iff :
    eqIgnoreAsciiCase a b = true ↔ a.map Char.toLower = b.map Char.toLower :=
  decide_eq_true_iff

/-- A space is what lowers to a space. -/
theorem toLower_eq_space {c : Char} : c.toLower = ' ' ↔ c = ' ' := by
  constructor
  · intro h
    unfold Char.toLower at h
    split at h
    · rename_i hupper
      have hval := congrArg Char.toNat h
      obtain ⟨h1, h2⟩ := hupper
      rw [ge_iff_le, UInt32.le_iff_toNat_le] at h1
      rw [UInt32.le_iff_toNat_le] at h2
      simp at h1 h2 hval
      omega
    · exact h
  · rintro rfl
    rfl

theorem stripWord_eq_some {word target rest : List Char} :
    stripWord word target = some rest ↔
      ∃ front, target = front ++ ' ' :: rest ∧ front.map Char.toLower = word.map Char.toLower := by
  unfold stripWord
  constructor
  · intro h
    split_ifs at h with hword
    split at h
    · rename_i hspace
      cases h
      exact ⟨_, by rw [← hspace, take_append_drop], eqIgnoreAsciiCase_iff.mp hword⟩
    · cases h
  · rintro ⟨front, rfl, heq⟩
    have hlen : front.length = word.length := by simpa using congrArg List.length heq
    simp only [← hlen, take_left, drop_left, if_pos (eqIgnoreAsciiCase_iff.mpr heq)]

namespace OutputName

variable {name : OutputName} {target : String}

/-- **The comparison of names.**  A text matches an output if it is, but for ASCII case, the
connector, or make, model and serial of an output that has any of them. -/
theorem matchesTarget_iff :
    name.matchesTarget target = true ↔
      eqIgnoreAsciiCase target.toList name.connector.toList = true ∨
        name.isMissing = false ∧
          eqIgnoreAsciiCase target.toList name.formatMakeModelSerial.toList = true := by
  have hwords : (match stripWord (name.make.getD "Unknown").toList target.toList with
      | none => false
      | some rest =>
        match stripWord (name.model.getD "Unknown").toList rest with
        | none => false
        | some rest => eqIgnoreAsciiCase rest (name.serial.getD "Unknown").toList) = true ↔
      ∃ r₁ r₂, stripWord (name.make.getD "Unknown").toList target.toList = some r₁ ∧
        stripWord (name.model.getD "Unknown").toList r₁ = some r₂ ∧
          eqIgnoreAsciiCase r₂ (name.serial.getD "Unknown").toList = true := by
    split
    · simp_all
    · split <;> simp_all
  unfold matchesTarget
  split_ifs with hconn hmissing
  · simp [hconn]
  · simp [hconn, hmissing]
  · rw [hwords, or_iff_right hconn, and_iff_right (by simpa using hmissing)]
    have hformat : name.formatMakeModelSerial.toList = (name.make.getD "Unknown").toList ++
        ' ' :: ((name.model.getD "Unknown").toList ++ ' ' :: (name.serial.getD "Unknown").toList) := by
      simp [formatMakeModelSerial, toString]
    simp only [stripWord_eq_some, eqIgnoreAsciiCase_iff, hformat]
    generalize target.toList = t
    constructor
    · rintro ⟨_, _, ⟨f₁, rfl, h₁⟩, ⟨f₂, rfl, h₂⟩, h₃⟩
      simp [h₁, h₂, h₃]
    · intro h
      rw [map_append, map_cons, map_append, map_cons] at h
      obtain ⟨f₁, _, rfl, h₁, h⟩ := map_eq_append_iff.mp h
      obtain ⟨_, _, rfl, hc₁, h⟩ := map_eq_cons_iff.mp h
      obtain ⟨f₂, _, rfl, h₂, h⟩ := map_eq_append_iff.mp h
      obtain ⟨_, r, rfl, hc₂, h₃⟩ := map_eq_cons_iff.mp h
      obtain rfl := toLower_eq_space.mp hc₁
      obtain rfl := toLower_eq_space.mp hc₂
      exact ⟨_, r, ⟨f₁, rfl, h₁⟩, ⟨f₂, rfl, h₂⟩, h₃⟩

/-- An output matches the name that is formatted for it. -/
theorem matchesTarget_format (name : OutputName) :
    name.matchesTarget name.formatMakeModelSerialOrConnector = true := by
  rw [matchesTarget_iff]
  unfold formatMakeModelSerialOrConnector
  split_ifs with hmissing
  · exact .inl (eqIgnoreAsciiCase_iff.mpr rfl)
  · exact .inr ⟨by simpa using hmissing, eqIgnoreAsciiCase_iff.mpr rfl⟩

end OutputName

/-! ## By bytes -/

/-- What follows the word and a space; the two slices of the target may panic. -/
def stripSliced (word target : List Char) : Option (Option (List Char)) :=
  match Utf8.get target (Utf8.size word) with
  | none => some none
  | some targetWord => do
    let rest ← Utf8.slice target (Utf8.size word)
    if eqIgnoreAsciiCase targetWord word then
      if rest.head? = some ' ' then
        let rest ← Utf8.slice rest 1
        return some rest
      else return none
    else return none

namespace OutputName

/-- `OutputName::matches`, with its slices. -/
def matchesSliced (name : OutputName) (target : String) : Option Bool := do
  -- Match by connector.
  if eqIgnoreAsciiCase target.toList name.connector.toList then
    return true
  if name.isMissing then
    return false
  match ← stripSliced (name.make.getD "Unknown").toList target.toList with
  | none => return false
  | some rest =>
    match ← stripSliced (name.model.getD "Unknown").toList rest with
    | none => return false
    | some rest => return eqIgnoreAsciiCase rest (name.serial.getD "Unknown").toList

end OutputName

/-- A word that is there, but for ASCII case, has as many characters as bytes say. -/
theorem take_of_eq {front rest word : List Char} (h : eqIgnoreAsciiCase front word = true) :
    (front ++ rest).take word.length = front ∧ (front ++ rest).drop word.length = rest := by
  have hlen : front.length = word.length := by
    have := congrArg List.length (eqIgnoreAsciiCase_iff.mp h)
    simpa using this
  rw [← hlen]
  exact ⟨take_left, drop_left⟩

variable (word target : List Char)

/-- **The cuts never panic**, and they leave what a comparison by characters leaves. -/
theorem stripSliced_eq : stripSliced word target = some (stripWord word target) := by
  unfold stripSliced
  cases hget : Utf8.get target (Utf8.size word) with
  | none =>
    -- The word is not there, since its bytes would end at a character.
    have hno : ¬ eqIgnoreAsciiCase (target.take word.length) word = true := by
      intro heq
      have hsize := Utf8.size_of_toLower (eqIgnoreAsciiCase_iff.mp heq)
      have hsome := Utf8.get_of_append (target.take word.length) (target.drop word.length)
      rw [take_append_drop, hsize, hget] at hsome
      cases hsome
    rw [stripWord, if_neg hno]
  | some front =>
    obtain ⟨rest, rfl, hsize⟩ := Utf8.get_eq_some.mp hget
    have hslice : Utf8.slice (front ++ rest) (Utf8.size word) = some rest := by
      rw [← hsize]
      exact Utf8.slice_of_append front rest
    dsimp only
    rw [hslice, bind_eq_bind, bind_some]
    by_cases heq : eqIgnoreAsciiCase front word = true
    · obtain ⟨htake, hdrop⟩ := @take_of_eq front rest word heq
      rw [if_pos heq, stripWord, htake, if_pos heq, hdrop]
      cases rest with
      | nil => rfl
      | cons c rest =>
        by_cases hc : c = ' '
        · subst hc
          have hspace : Utf8.slice (' ' :: rest) 1 = some rest := Utf8.slice_of_append [' '] rest
          rw [List.head?_cons, if_pos rfl, hspace]
          rfl
        · rw [List.head?_cons, if_neg fun h => hc (some.inj h)]
          split
          · rename_i heq'
            exact absurd (List.cons.inj heq').1 hc
          · rfl
    · rw [if_neg heq, stripWord]
      split_ifs with htake
      · -- The word is there, and the cut is where it ends.
        have hsize' := Utf8.size_of_toLower (eqIgnoreAsciiCase_iff.mp htake)
        have hsame := Utf8.get_of_append ((front ++ rest).take word.length)
          ((front ++ rest).drop word.length)
        rw [take_append_drop, hsize', hget] at hsame
        rw [← some.inj hsame] at htake
        exact absurd htake heq
      · rfl

namespace OutputName

variable (name : OutputName) (target : String)

theorem matchesSliced_eq : name.matchesSliced target = some (name.matchesTarget target) := by
  unfold matchesSliced matchesTarget
  split_ifs
  · rfl
  · rfl
  · rw [stripSliced_eq]
    cases stripWord (name.make.getD "Unknown").toList target.toList with
    | none => rfl
    | some rest =>
      dsimp only [bind_eq_bind, bind_some]
      rw [stripSliced_eq]
      cases stripWord (name.model.getD "Unknown").toList rest with
      | none => rfl
      | some rest => rfl

/-- **Names are recognised as documented.**  `matches` returns on every target; it accepts the
connector, and the text of make, model and serial if any of them is known, both but for ASCII case,
and nothing else.  So it accepts what the name is formatted as. -/
theorem matchesSliced_documented (name : OutputName) :
    (∀ target : String, ∃ accepted, name.matchesSliced target = some accepted ∧
      (accepted = true ↔
        eqIgnoreAsciiCase target.toList name.connector.toList = true ∨
          (name.make.isSome ∨ name.model.isSome ∨ name.serial.isSome) ∧
            eqIgnoreAsciiCase target.toList (name.make.getD "Unknown" ++ " " ++
              name.model.getD "Unknown" ++ " " ++ name.serial.getD "Unknown").toList = true)) ∧
      name.matchesSliced name.formatMakeModelSerialOrConnector = some true := by
  have hknown : name.isMissing = false ↔
      name.make.isSome ∨ name.model.isSome ∨ name.serial.isSome := by
    unfold isMissing
    cases name.make <;> cases name.model <;> cases name.serial <;> simp
  have hformat : (name.make.getD "Unknown" ++ " " ++ name.model.getD "Unknown" ++ " " ++
      name.serial.getD "Unknown") = name.formatMakeModelSerial := by
    simp [formatMakeModelSerial, toString]
  refine ⟨fun target => ⟨_, name.matchesSliced_eq target, ?_⟩, ?_⟩
  · rw [matchesTarget_iff, hknown, hformat]
  · rw [matchesSliced_eq, matchesTarget_format]

end OutputName

end Tiri.NiriConfig
