import Chip8.Proofs.CommandLine.KeyGrammar

/-!
# Joining key lists

A comma between two key lists joins them: the keys of the first come before those of the second,
and the first is the first to be refused. Keys that are written by their labels, in whatever case
and between whatever blanks, are read back as they are. `CommandLine.keyList_joins` says both.
-/

namespace Chip8

theorem Key.isDigit_label (key : Key) : key.IsDigit key.label ∧ key.IsDigit key.label.toLower := by
  have checked : ∀ code : Fin 16, (Key.mk code).IsDigit (Key.mk code).label ∧
      (Key.mk code).IsDigit (Key.mk code).label.toLower := by decide
  exact checked key.code

/-- Of a character between blanks nothing else is left. -/
theorem Text.trimmed_between_blanks {before behind : List Char} {character : Char}
    (before_blank : ∀ blank ∈ before, isBlank blank = true)
    (behind_blank : ∀ blank ∈ behind, isBlank blank = true) (solid : isBlank character = false) :
    trimmed (before ++ character :: behind) = [character] := by
  have solid : ¬isBlank character = true := by simp [solid]
  have behind_blank : ∀ blank ∈ behind.reverse, isBlank blank = true := by simpa using behind_blank
  rw [trimmed, List.dropWhile_append_of_pos before_blank, List.dropWhile_cons_of_neg solid,
    List.reverse_cons, List.dropWhile_append_of_pos behind_blank, List.dropWhile_cons_of_neg solid]
  rfl

namespace CommandLine

/-- A key as it may be written in a list: by its label, as it is printed or as a small letter,
between blanks. -/
structure WrittenKey where
  key : Key
  small : Bool
  before : List Char
  behind : List Char
  before_blank : ∀ blank ∈ before, Text.isBlank blank = true
  behind_blank : ∀ blank ∈ behind, Text.isBlank blank = true

namespace WrittenKey

/-- The label in the case in which it is written. -/
def digit (written : WrittenKey) : Char :=
  if written.small then written.key.label.toLower else written.key.label

/-- The label with the blanks around it. -/
def text (written : WrittenKey) : List Char :=
  written.before ++ written.digit :: written.behind

variable (written : WrittenKey)

theorem isDigit : written.key.IsDigit written.digit := by
  rw [digit]
  split
  · exact written.key.isDigit_label.2
  · exact written.key.isDigit_label.1

theorem trimmed_text : Text.trimmed written.text = [written.digit] := by
  have solid : (capitalDigits ++ smallDigits).all (!Text.isBlank ·) = true := by decide
  have digitSolid := List.all_eq_true.mp solid written.digit written.isDigit.mem
  exact Text.trimmed_between_blanks written.before_blank written.behind_blank
    (by simpa using digitSolid)

/-- A written key holds no comma, which is neither a blank nor a digit. -/
theorem comma_notMem_text : ',' ∉ written.text := by
  have noBlank : ¬Text.isBlank ',' = true := by decide
  have noDigit : ',' ∉ capitalDigits ++ smallDigits := by decide
  intro listed
  rcases List.mem_append.mp listed with before | inside
  · exact noBlank (written.before_blank ',' before)
  · rcases List.mem_cons.mp inside with same | behind
    · exact noDigit (same ▸ written.isDigit.mem)
    · exact noBlank (written.behind_blank ',' behind)

end WrittenKey

/-- The fields of written keys, joined by commas, are their digits. -/
theorem namingFields_intercalate (written : List WrittenKey) :
    namingFields ([','].intercalate (written.map WrittenKey.text)) =
      written.map fun key => [key.digit] := by
  by_cases none : written = []
  · subst none
    rfl
  · have split : ([','].intercalate (written.map WrittenKey.text)).splitOn ',' =
        written.map WrittenKey.text :=
      List.splitOn_intercalate ',' (by simpa using fun key _ => WrittenKey.comma_notMem_text key)
        (by simpa using none)
    have trimmed : (written.map WrittenKey.text).map Text.trimmed =
        written.map fun key => [key.digit] := by
      simp [WrittenKey.trimmed_text]
    rw [namingFields, commaFields_eq_splitOn, split, trimmed]
    exact List.filter_eq_self.mpr (by simp)

/-- The keys of written keys are those that are written. -/
theorem mapM_keyOfField_digits (written : List WrittenKey) :
    (written.map fun key => [key.digit]).mapM keyOfField = .ok (written.map WrittenKey.key) := by
  induction written with
  | nil => rfl
  | cons first rest ih =>
      have named : keyOfField [first.digit] = .ok first.key :=
        keyOfField_eq_ok_iff.mpr (paddedDigit_of_bareDigit ⟨first.digit, rfl, first.isDigit⟩)
      rw [List.map_cons, List.mapM_cons, named, ih]
      rfl

/-- Key lists compose. Two lists with a comma between them are read as the keys of both, the first
before the second, or refused as the first is, or else as the second is. Keys that are written out
and joined by commas are read back in order, each as often as it is written. -/
theorem keyList_joins :
    (∀ left right, keyList (left ++ ',' :: right) =
      match keyList left, keyList right with
      | .ok first, .ok second => .ok (first ++ second)
      | .error field, _ => .error field
      | .ok _, .error field => .error field) ∧
    ∀ written : List WrittenKey,
      keyList ([','].intercalate (written.map WrittenKey.text)) =
        .ok (written.map WrittenKey.key) := by
  constructor
  · intro left right
    have fields : namingFields (left ++ ',' :: right) =
        namingFields left ++ namingFields right := by
      simp [namingFields, commaFields_append_comma]
    rw [keyList, fields, List.mapM_append]
    show (do
      let first ← keyList left
      let second ← keyList right
      pure (first ++ second)) = _
    cases keyList left <;> cases keyList right <;> rfl
  · intro written
    rw [keyList, namingFields_intercalate, mapM_keyOfField_digits]

end CommandLine

end Chip8
