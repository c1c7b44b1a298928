import Chip8.CommandLine.KeyList
import Mathlib.Data.List.Forall2

/-!
# The grammar of key lists

Key lists are meant to hold single hexadecimal digits between commas. A field is however read as a
number, so that a plus sign and any number of zeros may stand in front of its digit.
`CommandLine.keyList_readsAs` says that these fields name keys and no others do, and that nothing
but this padding keeps a key list from being read as it is meant.
-/

namespace Chip8

/-- The hexadecimal digits in the order of their values, letters as capitals. -/
def capitalDigits : List Char :=
  ['0', '1', '2', '3', '4', '5', '6', '7', '8', '9', 'A', 'B', 'C', 'D', 'E', 'F']

/-- The hexadecimal digits in the order of their values, letters as small ones. -/
def smallDigits : List Char :=
  ['0', '1', '2', '3', '4', '5', '6', '7', '8', '9', 'a', 'b', 'c', 'd', 'e', 'f']

/-- A character is the hexadecimal digit of a key, in one case or the other. -/
def Key.IsDigit (key : Key) (character : Char) : Prop :=
  capitalDigits[key.code.val]? = some character ∨ smallDigits[key.code.val]? = some character

instance (key : Key) (character : Char) : Decidable (key.IsDigit character) :=
  inferInstanceAs (Decidable (_ ∨ _))

/-- The digits of keys are among the hexadecimal digits. -/
theorem Key.IsDigit.mem {key : Key} {character : Char} (digit : key.IsDigit character) :
    character ∈ capitalDigits ++ smallDigits :=
  List.mem_append.mpr (digit.imp List.mem_of_getElem? List.mem_of_getElem?)

namespace CommandLine

/-- A field that is nothing but the digit of a key. -/
def BareDigit (field : List Char) (key : Key) : Prop :=
  ∃ digit, field = [digit] ∧ key.IsDigit digit

/-- A field that ends in the digit of a key, behind a plus sign or none and any number of zeros. -/
def PaddedDigit (field : List Char) (key : Key) : Prop :=
  ∃ sign zeros digit, (sign = [] ∨ sign = ['+']) ∧
    field = sign ++ (List.replicate zeros '0' ++ [digit]) ∧ key.IsDigit digit

/-- How fields are read if `names` says which field names which key: as the keys of all of them, in
order, or as the first field that names none. -/
def ReadsAs (names : List Char → Key → Prop) (fields : List (List Char)) :
    Except (List Char) (List Key) → Prop
  | .ok keys => List.Forall₂ names fields keys
  | .error field => ∃ before behind, fields = before ++ field :: behind ∧
      (∀ earlier ∈ before, ∃ key, names earlier key) ∧ ∀ key, ¬names field key

variable {character first : Char} {field rest digits text : List Char} {value total : Nat}
  {key : Key} {fields : List (List Char)}

/-! ## Digits and numbers -/

/-- Only characters of the ASCII range have a value as digits. -/
theorem toNat_lt_of_hexDigitValue? (valued : hexDigitValue? character = some value) :
    character.toNat < 128 := by
  by_contra high
  have above {last : Char} (small : last.toNat < 128) : ¬character ≤ last := by
    rw [Char.le_def, UInt32.le_iff_toNat_le]
    exact fun low => high (Nat.lt_of_le_of_lt low small)
  simp [hexDigitValue?, above] at valued

/-- The characters that have a value as digits are the hexadecimal digits. -/
theorem hexDigitValue?_eq_some_iff :
    hexDigitValue? character = some key.code.val ↔ key.IsDigit character := by
  have table : ∀ point : Fin 128, ∀ code : Fin 16,
      hexDigitValue? (Char.ofNat point) = some code.val ↔
        (Key.mk code).IsDigit (Char.ofNat point) := by decide +kernel
  have checked (low : character.toNat < 128) :
      hexDigitValue? character = some key.code.val ↔ key.IsDigit character := by
    simpa only [Char.ofNat_toNat] using table ⟨character.toNat, low⟩ key.code
  constructor
  · intro valued
    exact (checked (toNat_lt_of_hexDigitValue? valued)).mp valued
  · intro digit
    have low : (capitalDigits ++ smallDigits).all (·.toNat < 128) = true := by decide
    exact (checked (of_decide_eq_true (List.all_eq_true.mp low character digit.mem))).mpr digit

/-- More digits do not make a number smaller. -/
theorem le_of_hexValue? (read : hexValue? value digits = some total) : value ≤ total := by
  induction digits generalizing value with
  | nil => exact Nat.le_of_eq (Option.some.inj read)
  | cons character rest ih =>
      rw [hexValue?] at read
      obtain ⟨digit, -, more⟩ := Option.bind_eq_some_iff.mp read
      have := ih more
      omega

/-- In front of further digits of a number below sixteen there is a zero. -/
theorem hexValue?_cons_cons {second : Char} :
    hexValue? 0 (first :: second :: rest) = some key.code.val ↔
      first = '0' ∧ hexValue? 0 (second :: rest) = some key.code.val := by
  constructor
  · intro read
    rw [hexValue?] at read
    obtain ⟨digit, valued, more⟩ := Option.bind_eq_some_iff.mp read
    -- a first digit other than zero counts for at least sixteen
    obtain rfl : digit = 0 := by
      rw [hexValue?] at more
      obtain ⟨next, -, last⟩ := Option.bind_eq_some_iff.mp more
      have := le_of_hexValue? last
      have := key.code.isLt
      omega
    have zero : (Key.mk 0).IsDigit first := hexDigitValue?_eq_some_iff.mp valued
    refine ⟨?_, more⟩
    rcases zero with same | same <;> exact (Option.some.inj same).symm
  · rintro ⟨rfl, read⟩
    exact read

/-- A number that is the code of a key has nothing but zeros in front of its last digit. -/
theorem hexValue?_eq_some_iff :
    hexValue? 0 (first :: rest) = some key.code.val ↔
      ∃ zeros digit, first :: rest = List.replicate zeros '0' ++ [digit] ∧ key.IsDigit digit := by
  induction rest generalizing first with
  | nil =>
      have single : hexValue? 0 [first] = hexDigitValue? first := by
        simp [hexValue?]
      rw [single, hexDigitValue?_eq_some_iff]
      constructor
      · intro digit
        exact ⟨0, first, rfl, digit⟩
      · rintro ⟨zeros, digit, same, isDigit⟩
        replace same : [] ++ [first] = List.replicate zeros '0' ++ [digit] := same
        cases List.append_inj_right' same rfl
        exact isDigit
  | cons second rest ih =>
      rw [hexValue?_cons_cons, ih]
      constructor
      · rintro ⟨rfl, zeros, digit, same, isDigit⟩
        exact ⟨zeros + 1, digit, congrArg ('0' :: ·) same, isDigit⟩
      · rintro ⟨zeros, digit, same, isDigit⟩
        cases zeros with
        | zero => cases same
        | succ zeros =>
            rw [List.replicate_succ, List.cons_append] at same
            obtain ⟨rfl, behind⟩ := List.cons.inj same
            exact ⟨rfl, zeros, digit, behind, isDigit⟩

/-! ## Fields -/

theorem hexNumber?_of_ne_plus (bare : first ≠ '+') :
    hexNumber? (first :: rest) = hexValue? 0 (first :: rest) := by
  simp [hexNumber?, bare]

/-- The fields that stand for the code of a key as a number are those that end in its digit, behind
nothing but padding. -/
theorem hexNumber?_eq_some_iff :
    hexNumber? field = some key.code.val ↔ PaddedDigit field key := by
  have noPlus : ∀ code : Fin 16, ¬(Key.mk code).IsDigit '+' := by decide
  constructor
  · intro number
    cases field with
    | nil => cases number
    | cons first rest =>
        by_cases plus : first = '+'
        · subst plus
          cases rest with
          | nil => cases number
          | cons first rest =>
              obtain ⟨zeros, digit, same, isDigit⟩ := hexValue?_eq_some_iff.mp number
              exact ⟨['+'], zeros, digit, .inr rfl, congrArg ('+' :: ·) same, isDigit⟩
        · rw [hexNumber?_of_ne_plus plus] at number
          obtain ⟨zeros, digit, same, isDigit⟩ := hexValue?_eq_some_iff.mp number
          exact ⟨[], zeros, digit, .inl rfl, same, isDigit⟩
  · rintro ⟨sign, zeros, digit, signed, rfl, isDigit⟩
    obtain ⟨first, rest, same, bare⟩ : ∃ first rest,
        List.replicate zeros '0' ++ [digit] = first :: rest ∧ first ≠ '+' := by
      cases zeros with
      | zero => exact ⟨digit, [], rfl, fun plus => noPlus key.code (plus ▸ isDigit)⟩
      | succ zeros => exact ⟨'0', List.replicate zeros '0' ++ [digit], rfl, by decide⟩
    have number : hexValue? 0 (first :: rest) = some key.code.val :=
      hexValue?_eq_some_iff.mpr ⟨zeros, digit, same.symm, isDigit⟩
    rw [same]
    rcases signed with rfl | rfl
    · exact (hexNumber?_of_ne_plus bare).trans number
    · exact number

theorem keyOfField_eq_ok_iff : keyOfField field = .ok key ↔ PaddedDigit field key := by
  have byCode {number : Nat} : Key.ofCode? number = some key ↔ number = key.code.val := by
    cases key with | mk code =>
    rw [Key.ofCode?]
    split
    · simp [Fin.ext_iff]
    · have := code.isLt
      simp only [reduceCtorEq, false_iff]
      omega
  rw [← hexNumber?_eq_some_iff, keyOfField]
  cases hexNumber? field with
  | none => simp
  | some number =>
      rw [Option.bind_some, Option.some_inj, ← byCode]
      cases Key.ofCode? number <;> simp

/-- A field that names no key is its own refusal. -/
theorem keyOfField_of_unnamed (unnamed : ∀ key, ¬PaddedDigit field key) :
    keyOfField field = .error field := by
  cases read : keyOfField field with
  | ok key => exact absurd (keyOfField_eq_ok_iff.mp read) (unnamed key)
  | error refused =>
      rw [keyOfField] at read
      split at read
      · cases read
      · cases read
        rfl

/-! ## Texts -/

/-- The fields of a text are what lies between its commas. -/
theorem commaFields_eq_splitOn (text : List Char) : commaFields text = text.splitOn ',' := by
  rw [List.splitOn_eq_splitOnP]
  induction text with
  | nil => rfl
  | cons character rest ih =>
      rw [commaFields, ih, List.splitOnP_cons_eq_if_modifyHead]
      simp only [beq_iff_eq]
      split
      · rfl
      · cases fields : rest.splitOnP (· == ',') with
        | nil => exact absurd fields (List.splitOnP_ne_nil _ _)
        | cons field more => rfl

/-- Fields are read one after the other, up to the first that names no key. -/
theorem mapM_keyOfField_readsAs (fields : List (List Char)) :
    ReadsAs PaddedDigit fields (fields.mapM keyOfField) := by
  induction fields with
  | nil => exact .nil
  | cons field rest ih =>
      rw [List.mapM_cons]
      by_cases named : ∃ key, PaddedDigit field key
      · obtain ⟨key, named⟩ := named
        rw [keyOfField_eq_ok_iff.mpr named]
        cases read : rest.mapM keyOfField with
        | ok keys =>
            rw [read] at ih
            exact .cons named ih
        | error refused =>
            rw [read] at ih
            obtain ⟨before, behind, same, earlier, unnamed⟩ := ih
            refine ⟨field :: before, behind, congrArg (field :: ·) same, ?_, unnamed⟩
            exact List.forall_mem_cons.mpr ⟨⟨key, named⟩, earlier⟩
      · rw [not_exists] at named
        rw [keyOfField_of_unnamed named]
        exact ⟨[], rest, rfl, nofun, named⟩

/-- If two relations agree on the fields, so do the readings. -/
theorem ReadsAs.congr {names names' : List Char → Key → Prop}
    (same : ∀ field ∈ fields, ∀ key, names field key ↔ names' field key)
    {result : Except (List Char) (List Key)} (reads : ReadsAs names fields result) :
    ReadsAs names' fields result := by
  cases result with
  | ok keys =>
      replace reads : List.Forall₂ names fields keys := reads
      show List.Forall₂ names' fields keys
      induction reads with
      | nil => exact .nil
      | cons named _ ih =>
          obtain ⟨first, others⟩ := List.forall_mem_cons.mp same
          exact .cons ((first _).mp named) (ih others)
  | error field =>
      obtain ⟨before, behind, rfl, earlier, unnamed⟩ := reads
      refine ⟨before, behind, rfl, fun other listed => ?_, fun key named => ?_⟩
      · obtain ⟨key, named⟩ := earlier other listed
        exact ⟨key, (same other (List.mem_append_left _ listed) key).mp named⟩
      · exact unnamed key ((same field (by simp) key).mpr named)

theorem paddedDigit_of_bareDigit (bare : BareDigit field key) : PaddedDigit field key := by
  obtain ⟨digit, rfl, isDigit⟩ := bare
  exact ⟨[], 0, digit, .inl rfl, rfl, isDigit⟩

/-- There is no room for padding in a field of one character. -/
theorem bareDigit_of_paddedDigit (short : field.length = 1) (padded : PaddedDigit field key) :
    BareDigit field key := by
  obtain ⟨sign, zeros, digit, -, rfl, isDigit⟩ := padded
  simp only [List.length_append, List.length_replicate, List.length_singleton] at short
  obtain rfl : sign = [] := List.eq_nil_of_length_eq_zero (by omega)
  obtain rfl : zeros = 0 := by omega
  exact ⟨digit, rfl, isDigit⟩

/-- How key lists are read. The fields between the commas, without the blanks around them and as far
as anything is left of them, name keys by a hexadecimal digit behind nothing but padding; the list
is refused for the first of them that does not. A list in which no field is padded is so read as it
is meant, by single digits. -/
theorem keyList_readsAs (text : List Char) :
    let fields := ((text.splitOn ',').map Text.trimmed).filter fun field => !field.isEmpty
    ReadsAs PaddedDigit fields (keyList text) ∧
      ((∀ field ∈ fields, ∀ key, PaddedDigit field key → BareDigit field key) →
        ReadsAs BareDigit fields (keyList text)) := by
  intro fields
  have reads : ReadsAs PaddedDigit fields (keyList text) := by
    rw [keyList, namingFields, commaFields_eq_splitOn]
    exact mapM_keyOfField_readsAs fields
  refine ⟨reads, fun bare => reads.congr fun field listed key => ?_⟩
  exact ⟨bare field listed key, paddedDigit_of_bareDigit⟩

/-- A list with a field that is left out, blanks around another, and digits in both cases. -/
theorem keyList_readsAs_bare :
    let text := [' ', '5', ',', ',', 'A', '\t', ',', 'f']
    let fields := ((text.splitOn ',').map Text.trimmed).filter fun field => !field.isEmpty
    (∀ field ∈ fields, ∀ key, PaddedDigit field key → BareDigit field key) ∧
      ReadsAs BareDigit fields (keyList text) := by
  intro text fields
  have short : ∀ field ∈ fields, field.length = 1 := by decide
  have bare : ∀ field ∈ fields, ∀ key, PaddedDigit field key → BareDigit field key :=
    fun field listed _ => bareDigit_of_paddedDigit (short field listed)
  exact ⟨bare, (keyList_readsAs text).2 bare⟩

/-- Not all key lists are read as they are meant: a digit behind a plus sign names a key. -/
theorem keyList_reads_padding :
    ¬∀ text : List Char,
      ReadsAs BareDigit
        (((text.splitOn ',').map Text.trimmed).filter fun field => !field.isEmpty)
        (keyList text) := by
  intro meant
  have reads : List.Forall₂ BareDigit [['+', '5']] [Key.mk 5] := meant ['+', '5']
  obtain ⟨⟨digit, same, -⟩, -⟩ := List.forall₂_cons.mp reads
  cases same

end CommandLine

end Chip8
