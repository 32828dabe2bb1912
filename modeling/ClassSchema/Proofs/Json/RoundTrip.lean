import ClassSchema.Json.Reader
import ClassSchema.Json.Writer
import ClassSchema.Proofs.Number.Digits
import Mathlib.Data.List.TakeWhile

/-!
# Reading what was written

A JSON value without doubles is read from its text as it was, with the entries of every object in
their order. The parts of the text are told apart by their first characters: no value starts with
white space or with a closing bracket, a text ends at the first quote that no backslash escapes, and
an integer ends where its digits end, because a comma, a line feed or the end of the text follows.

The reader needs fuel for every value and every item. Twice the length of the text is enough, since
each of them takes up at least one character.
-/

namespace ClassSchema.Json

variable {cs rest : List Char} {c : Char}

/-! ## Texts -/

private theorem hexValue?_hexDigit : ∀ d < 16, hexValue? (Text.hexDigit d) = some d := by decide

private theorem hexDigits_four (n : Nat) : Text.hexDigits 4 n =
    [Text.hexDigit (n / 16 / 16 / 16 % 16), Text.hexDigit (n / 16 / 16 % 16),
      Text.hexDigit (n / 16 % 16), Text.hexDigit (n % 16)] := by
  simp [Text.hexDigits]

private theorem hexValue4?_hexDigit {n : Nat} (h : n < 0x10000) :
    hexValue4? (Text.hexDigit (n / 16 / 16 / 16 % 16)) (Text.hexDigit (n / 16 / 16 % 16))
      (Text.hexDigit (n / 16 % 16)) (Text.hexDigit (n % 16)) = some n := by
  have hmod (m : Nat) : m % 16 < 16 := Nat.mod_lt _ (by decide)
  simp only [hexValue4?, hexValue?_hexDigit _ (hmod _)]
  simp
  omega

private theorem joinUnit?_none {n : Nat} (h : n < 0xD800) :
    joinUnit? none n = some (.inl (Char.ofNat n)) := by
  rw [joinUnit?, if_neg (by omega), if_neg (by omega)]

private theorem readText_letter {letter : Char} (h : unescape? letter = some c) (hne : letter ≠ 'u')
    (cs : List Char) : readText none ('\\' :: letter :: cs) =
      (readText none cs).map fun (chars, rest) ↦ (c :: chars, rest) := by
  rw [readText]
  · simp [h]
  · simp [hne]

/-- One character of a text is read back. -/
theorem readText_escapedChar (c : Char) (cs : List Char) :
    readText none (escapedChar c ++ cs) =
      (readText none cs).map fun (chars, rest) ↦ (c :: chars, rest) := by
  unfold escapedChar
  split
  · subst_vars; exact readText_letter rfl (by decide) cs
  split
  · subst_vars; exact readText_letter rfl (by decide) cs
  split
  · subst_vars; exact readText_letter rfl (by decide) cs
  split
  · subst_vars; exact readText_letter rfl (by decide) cs
  split
  · subst_vars; exact readText_letter rfl (by decide) cs
  split
  · subst_vars; exact readText_letter rfl (by decide) cs
  split
  · subst_vars; exact readText_letter rfl (by decide) cs
  split
  · -- a control character without a letter of its own
    rename_i h
    rw [hexDigits_four]
    simp only [List.cons_append, List.nil_append]
    rw [readText, hexValue4?_hexDigit (by omega)]
    simp [joinUnit?_none (show c.toNat < 0xD800 by omega)]
  · rename_i hquote hbackslash _ _ _ _ _ hcontrol
    simp only [List.cons_append, List.nil_append]
    rw [readText]
    · simp [hquote, hbackslash, hcontrol]
    · simp_all
    · simp_all

theorem readText_flatMap (chars rest : List Char) :
    readText none (chars.flatMap escapedChar ++ '"' :: rest) = some (chars, rest) := by
  induction chars with
  | nil => simp [readText]
  | cons c chars ih => simp [List.append_assoc, readText_escapedChar, ih]

/-! ## Integers -/

/-- What may follow a value in a text that was written: nothing, a comma or a line feed. -/
def Delimits (rest : List Char) : Prop := ∀ c ∈ rest.head?, c = ',' ∨ c = '\n'

private theorem delimits_nil : Delimits [] := by simp [Delimits]

theorem delimits_newline (level : Nat) (cs : List Char) : Delimits (newline level ++ cs) := by
  simp [Delimits, newline]

theorem delimits_comma (cs : List Char) : Delimits (',' :: cs) := by simp [Delimits]

private theorem Delimits.cases (h : Delimits rest) :
    rest.takeWhile Char.isDigit = [] ∧ readFraction rest = some ([], rest) ∧
      readExponent rest = some (none, rest) := by
  cases rest with
  | nil => exact ⟨rfl, rfl, rfl⟩
  | cons c cs => rcases h c rfl with rfl | rfl <;> exact ⟨rfl, rfl, rfl⟩

private theorem readUnsigned_toDigits (negative : Bool) (n : Nat) (h : Delimits rest) :
    readUnsigned negative (Nat.toDigits 10 n ++ rest) =
      some (.int (if negative then -n else n), rest) := by
  obtain ⟨htake, hfraction, hexponent⟩ := h.cases
  have hdigits : ∀ c ∈ Nat.toDigits 10 n, c.isDigit = true := fun c ↦
    Digits.isDigit_of_mem
  have hwhole : (Nat.toDigits 10 n ++ rest).takeWhile Char.isDigit = Nat.toDigits 10 n := by
    rw [List.takeWhile_append_of_pos hdigits, htake, List.append_nil]
  have hrest : (Nat.toDigits 10 n ++ rest).dropWhile Char.isDigit = rest := by
    have hsplit : (Nat.toDigits 10 n ++ rest).takeWhile Char.isDigit ++
        (Nat.toDigits 10 n ++ rest).dropWhile Char.isDigit = Nat.toDigits 10 n ++ rest :=
      List.takeWhile_append_dropWhile
    rw [hwhole] at hsplit
    exact List.append_cancel_left hsplit
  have hvalue : digitsValue (Nat.toDigits 10 n) = n := Nat.ofDigitChars_ten_toDigits
  have hzero : ¬((Nat.toDigits 10 n).isEmpty || (Nat.toDigits 10 n).length > 1 &&
      (Nat.toDigits 10 n).head? == some '0') = true := by
    intro hbad
    simp only [Bool.or_eq_true, List.isEmpty_iff, Nat.toDigits_ne_nil, Bool.and_eq_true,
      decide_eq_true_eq, beq_iff_eq, false_or] at hbad
    rw [Digits.eq_zero_of_head? hbad.2] at hbad
    exact absurd hbad.1 (by decide)
  rw [readUnsigned]
  simp [hwhole, hrest, hfraction, hexponent, hvalue, hzero]

private theorem findSome?_words (hc : c.isDigit = true) (negative : Bool) (cs : List Char) :
    (words.findSome? fun (word, value) ↦
      (dropWord? word ((if negative then ['-'] else []) ++ c :: cs)).map (value, ·)) = none := by
  have hne {letter : Char} (h : letter.isDigit = false := by decide) : letter ≠ c :=
    (Digits.ne_of_isDigit hc h).symm
  cases negative <;> simp [words, dropWord?, hne]

private theorem readNumber_int (n : Int) (h : Delimits rest) :
    readNumber ((if n < 0 then ['-'] else []) ++ Nat.toDigits 10 n.natAbs ++ rest) =
      some (.int n, rest) := by
  have hread (negative : Bool) := readUnsigned_toDigits negative n.natAbs h
  split
  · have hsize : -(n.natAbs : Int) = n := by omega
    calc readNumber ('-' :: (Nat.toDigits 10 n.natAbs ++ rest))
        = readUnsigned true (Nat.toDigits 10 n.natAbs ++ rest) := rfl
      _ = some (.int n, rest) := by rw [hread, if_pos rfl, hsize]
  · have hsize : (n.natAbs : Int) = n := by omega
    obtain ⟨d, ds, hdigits, hdigit⟩ := Digits.exists_eq_cons n.natAbs
    have hminus : d ≠ '-' := Digits.ne_of_isDigit hdigit rfl
    calc readNumber ([] ++ Nat.toDigits 10 n.natAbs ++ rest)
        = readUnsigned false (Nat.toDigits 10 n.natAbs ++ rest) := by
          simp [hdigits, readNumber, hminus]
      _ = some (.int n, rest) := by simp [hread, hsize]

private theorem readSimple_int (n : Int) (h : Delimits rest) :
    readSimple (((Number.int n).text decimalStyle).toList ++ rest) = some (int n, rest) := by
  obtain ⟨d, ds, hdigits, hdigit⟩ := Digits.exists_eq_cons n.natAbs
  have hwords := findSome?_words hdigit (decide (n < 0)) (ds ++ rest)
  have hnumber := readNumber_int n h
  simp only [decide_eq_true_eq] at hwords
  rw [Number.toList_text_int]
  rw [hdigits] at hnumber ⊢
  rw [List.append_assoc, List.cons_append] at hnumber ⊢
  rw [readSimple, hwords]
  simp only [hnumber, Option.map_some, int]

/-! ## Values -/

/-- A value whose numbers are all integers. -/
inductive IsIntegral : Json → Prop
  | null : IsIntegral null
  | bool (value : Bool) : IsIntegral (bool value)
  | int (n : Int) : IsIntegral (int n)
  | text (s : String) : IsIntegral (text s)
  | list {items : List Json} (h : ∀ item ∈ items, IsIntegral item) : IsIntegral (list items)
  | table {entries : List (String × Json)} (h : ∀ entry ∈ entries, IsIntegral entry.2) :
    IsIntegral (table entries)

theorem skipSpace_newline (level : Nat) (cs : List Char) :
    skipSpace (newline level ++ cs) = skipSpace cs := by
  have hspaces : ∀ c ∈ newline level, isSpace c = true := by
    intro c hc
    rcases List.mem_cons.mp hc with rfl | hc
    · rfl
    · rw [List.eq_of_mem_replicate hc]
      rfl
  exact List.dropWhile_append_of_pos hspaces

theorem skipSpace_cons (h : isSpace c = false) (cs : List Char) :
    skipSpace (c :: cs) = c :: cs := by
  simp [skipSpace, h]

/-- A written value starts with a character that is neither white space nor a bracket that
closes. -/
theorem IsIntegral.exists_write_eq_cons {v : Json} (h : IsIntegral v) (level : Nat) :
    ∃ c cs, write level v = c :: cs ∧ isSpace c = false ∧ c ≠ ']' ∧ c ≠ '\x7d' := by
  cases h with
  | null => exact ⟨_, _, rfl, by decide⟩
  | bool b => cases b <;> exact ⟨_, _, rfl, by decide⟩
  | int n =>
    obtain ⟨d, ds, hdigits, hdigit⟩ := Digits.exists_eq_cons n.natAbs
    have hne {other : Char} (h : other.isDigit = false := by decide) : d ≠ other :=
      Digits.ne_of_isDigit hdigit h
    rw [Json.int, Json.write, Number.toList_text_int, hdigits]
    split
    · exact ⟨_, _, rfl, by decide⟩
    · exact ⟨d, ds, rfl, by simp [isSpace, hne], hne, hne⟩
  | text s => exact ⟨_, _, rfl, by decide⟩
  | @list items h =>
    cases items with
    | nil => exact ⟨_, _, rfl, by decide⟩
    | cons item items => exact ⟨_, _, rfl, by decide⟩
  | @table entries h =>
    cases entries with
    | nil => exact ⟨_, _, rfl, by decide⟩
    | cons entry entries => exact ⟨_, _, rfl, by decide⟩

theorem IsIntegral.skipSpace_write {v : Json} (h : IsIntegral v) (level : Nat) (rest : List Char) :
    skipSpace (Json.write level v ++ rest) = Json.write level v ++ rest := by
  obtain ⟨c, cs, hwrite, hspace, -⟩ := h.exists_write_eq_cons level
  rw [hwrite, List.cons_append, skipSpace_cons hspace]

private theorem readValue_simple {fuel : Nat} (hcs : skipSpace cs = c :: rest) (hquote : c ≠ '"')
    (hbracket : c ≠ '[') (hbrace : c ≠ '\x7b') :
    readValue (fuel + 1) cs = readSimple (c :: rest) := by
  simp [readValue, hcs, hquote, hbracket, hbrace]

/-- A value is read back wherever it was written: behind white space, at any level, and in front of
whatever may follow a value. -/
def Reads (v : Json) : Prop :=
  ∀ level fuel cs rest, skipSpace cs = write level v ++ rest → Delimits rest →
    2 * (write level v).length ≤ fuel → readValue fuel cs = some (v, rest)

theorem reads_simple {v : Json} {word : List Char} (hwrite : ∀ level, write level v = word)
    (hread : ∀ rest, Delimits rest → readSimple (word ++ rest) = some (v, rest))
    (hword : ∃ c cs, word = c :: cs ∧ c ≠ '"' ∧ c ≠ '[' ∧ c ≠ '\x7b') : Reads v := by
  intro level fuel cs rest hcs hrest hfuel
  rw [hwrite] at hcs hfuel
  obtain ⟨c, word, rfl, hquote, hbracket, hbrace⟩ := hword
  rw [List.length_cons] at hfuel
  obtain ⟨fuel, rfl⟩ : ∃ n, fuel = n + 1 := ⟨fuel - 1, by omega⟩
  rw [readValue_simple hcs hquote hbracket hbrace]
  exact hread rest hrest

private theorem reads_int (n : Int) : Reads (int n) := by
  obtain ⟨d, ds, hdigits, hdigit⟩ := Digits.exists_eq_cons n.natAbs
  have hne {other : Char} (h : other.isDigit = false := by decide) : d ≠ other :=
    Digits.ne_of_isDigit hdigit h
  have hwrite (level : Nat) : write level (int n) = ((Number.int n).text decimalStyle).toList := by
    rw [int, write]
  refine reads_simple hwrite (fun rest hrest ↦ readSimple_int n hrest) ?_
  rw [Number.toList_text_int, hdigits]
  split
  · exact ⟨'-', _, rfl, by decide⟩
  · exact ⟨d, ds, rfl, hne, hne, hne⟩

private theorem reads_text (s : String) : Reads (text s) := by
  intro level fuel cs rest hcs _ hfuel
  simp only [write, writeText, List.length_cons] at hcs hfuel
  obtain ⟨fuel, rfl⟩ : ∃ n, fuel = n + 1 := ⟨fuel - 1, by omega⟩
  rw [List.cons_append, List.append_assoc, List.singleton_append] at hcs
  simp [readValue, hcs, readText_flatMap]

/-! ### Items and entries -/

private theorem writeItems_cons_append (level : Nat) (item : Json) (items : List Json)
    (tail : List Char) :
    writeItems level (item :: items) ++ tail =
      ',' :: (newline level ++ (write level item ++ (writeItems level items ++ tail))) := by
  simp [writeItems]

private theorem writeEntries_cons_append (level : Nat) (key : String) (value : Json)
    (entries : List (String × Json)) (tail : List Char) :
    writeEntries level ((key, value) :: entries) ++ tail =
      ',' :: (newline level ++ (writeText key ++
        (':' :: ' ' :: (write level value ++ (writeEntries level entries ++ tail))))) := by
  simp [writeEntries]

theorem skipSpace_writeText (s : String) (cs : List Char) :
    skipSpace (writeText s ++ cs) = writeText s ++ cs := skipSpace_cons rfl _

theorem skipSpace_close (h : isSpace c = false) (level : Nat) (cs : List Char) :
    skipSpace (newline level ++ c :: cs) = c :: cs := by
  rw [skipSpace_newline, skipSpace_cons h]

private theorem readItems_write {level outer : Nat} {items : List Json} {item : Json} {fuel : Nat}
    (hitem : Reads item) (hitems : ∀ i ∈ items, IsIntegral i ∧ Reads i)
    (hcs : skipSpace cs =
      write level item ++ (writeItems level items ++ (newline outer ++ ']' :: rest)))
    (hfuel : 2 * (write level item).length + 2 * (writeItems level items).length + 1 ≤ fuel) :
    readItems fuel cs = some (item :: items, rest) := by
  induction items generalizing item cs fuel with
  | nil =>
    obtain ⟨fuel, rfl⟩ : ∃ n, fuel = n + 1 := ⟨fuel - 1, by omega⟩
    rw [writeItems, List.nil_append] at hcs
    have hvalue := hitem level fuel cs _ hcs (delimits_newline outer _) (by omega)
    simp [readItems, hvalue, skipSpace_close, isSpace]
  | cons next items ih =>
    obtain ⟨fuel, rfl⟩ : ∃ n, fuel = n + 1 := ⟨fuel - 1, by omega⟩
    obtain ⟨⟨hintegral, hnext⟩, hitems⟩ := List.forall_mem_cons.mp hitems
    rw [writeItems_cons_append] at hcs
    simp only [writeItems, List.cons_append, List.append_assoc, List.length_cons,
      List.length_append] at hfuel
    have hvalue := hitem level fuel cs _ hcs (delimits_comma _) (by omega)
    have hmore := ih hnext hitems
      ((skipSpace_newline level _).trans (hintegral.skipSpace_write level _))
      (show _ ≤ fuel by omega)
    simp [readItems, hvalue, skipSpace_cons (c := ',') rfl, hmore]

private theorem readEntries_write {level outer : Nat} {entries : List (String × Json)}
    {key : String} {value : Json} {fuel : Nat} (hvalue : IsIntegral value ∧ Reads value)
    (hentries : ∀ entry ∈ entries, IsIntegral entry.2 ∧ Reads entry.2)
    (hcs : skipSpace cs = writeText key ++ (':' :: ' ' :: (write level value ++
      (writeEntries level entries ++ (newline outer ++ '\x7d' :: rest)))))
    (hfuel : 2 * (write level value).length + 2 * (writeEntries level entries).length + 1 ≤ fuel) :
    readEntries fuel cs = some ((key, value) :: entries, rest) := by
  -- the entry that is read first is kept apart, as only the others have a comma in front
  induction entries generalizing key value cs fuel with
  | nil =>
    obtain ⟨fuel, rfl⟩ : ∃ n, fuel = n + 1 := ⟨fuel - 1, by omega⟩
    have hread (tail : List Char) (htail : Delimits tail) :
        readValue fuel (' ' :: (write level value ++ tail)) = some (value, tail) :=
      hvalue.2 level fuel _ tail (hvalue.1.skipSpace_write level tail) htail (by omega)
    rw [writeEntries, List.nil_append, writeText, List.cons_append, List.append_assoc,
      List.singleton_append] at hcs
    simp [readEntries, hcs, readText_flatMap, skipSpace_cons, skipSpace_close, isSpace,
      hread _ (delimits_newline outer _)]
  | cons next entries ih =>
    obtain ⟨nextKey, next⟩ := next
    simp only [List.forall_mem_cons] at hentries
    obtain ⟨hnext, hentries⟩ := hentries
    obtain ⟨fuel, rfl⟩ : ∃ n, fuel = n + 1 := ⟨fuel - 1, by omega⟩
    rw [writeEntries_cons_append] at hcs
    simp only [writeEntries, List.length_append] at hfuel
    have hread (tail : List Char) (htail : Delimits tail) :
        readValue fuel (' ' :: (write level value ++ tail)) = some (value, tail) :=
      hvalue.2 level fuel _ tail (hvalue.1.skipSpace_write level tail) htail (by omega)
    have hmore := ih hnext hentries
      ((skipSpace_newline level _).trans (skipSpace_writeText nextKey _))
      (show _ ≤ fuel by simp at hfuel; omega)
    rw [writeText, List.cons_append, List.append_assoc, List.singleton_append] at hcs
    simp [readEntries, hcs, readText_flatMap, skipSpace_cons, isSpace, hread _ (delimits_comma _),
      hmore]

private theorem readValue_list {fuel : Nat} (hcs : skipSpace cs = '[' :: rest)
    (hrest : ∀ tail, skipSpace rest ≠ ']' :: tail) :
    readValue (fuel + 1) cs =
      (readItems fuel (skipSpace rest)).map fun (items, rest) ↦ (list items, rest) := by
  cases hskip : skipSpace rest with
  | nil => simp [readValue, hcs, hskip]
  | cons c tail =>
    have hne : c ≠ ']' := fun h ↦ hrest tail (h ▸ hskip)
    simp [readValue, hcs, hskip, hne]

private theorem readValue_table {fuel : Nat} (hcs : skipSpace cs = '\x7b' :: rest)
    (hrest : ∀ tail, skipSpace rest ≠ '\x7d' :: tail) :
    readValue (fuel + 1) cs =
      (readEntries fuel (skipSpace rest)).map fun (entries, rest) ↦ (table entries, rest) := by
  cases hskip : skipSpace rest with
  | nil => simp [readValue, hcs, hskip]
  | cons c tail =>
    have hne : c ≠ '\x7d' := fun h ↦ hrest tail (h ▸ hskip)
    simp [readValue, hcs, hskip, hne]

private theorem reads_list {items : List Json} (h : ∀ item ∈ items, IsIntegral item ∧ Reads item) :
    Reads (list items) := by
  intro level fuel cs rest hcs _ hfuel
  cases items with
  | nil =>
    simp only [write, List.length_cons] at hcs hfuel
    obtain ⟨fuel, rfl⟩ : ∃ n, fuel = n + 1 := ⟨fuel - 1, by omega⟩
    simp [readValue, hcs, skipSpace_cons, isSpace]
  | cons item items =>
    obtain ⟨⟨hintegral, hitem⟩, hitems⟩ := List.forall_mem_cons.mp h
    obtain ⟨c, tail, hwrite, -, hbracket, -⟩ := hintegral.exists_write_eq_cons (level + 1)
    simp only [write, List.append_assoc, List.cons_append, List.nil_append, List.length_cons,
      List.length_append] at hcs hfuel
    obtain ⟨fuel, rfl⟩ : ∃ n, fuel = n + 1 := ⟨fuel - 1, by omega⟩
    have hskip (tail : List Char) :
        skipSpace (newline (level + 1) ++ (write (level + 1) item ++ tail)) =
          write (level + 1) item ++ tail :=
      (skipSpace_newline _ _).trans (hintegral.skipSpace_write _ tail)
    rw [readValue_list hcs, hskip, readItems_write hitem hitems (hintegral.skipSpace_write _ _)]
    · rfl
    · omega
    · intro tail
      rw [hskip, hwrite]
      simp [hbracket]

private theorem reads_table {entries : List (String × Json)}
    (h : ∀ entry ∈ entries, IsIntegral entry.2 ∧ Reads entry.2) : Reads (table entries) := by
  intro level fuel cs rest hcs _ hfuel
  cases entries with
  | nil =>
    simp only [write, List.length_cons] at hcs hfuel
    obtain ⟨fuel, rfl⟩ : ∃ n, fuel = n + 1 := ⟨fuel - 1, by omega⟩
    simp [readValue, hcs, skipSpace_cons, isSpace]
  | cons entry entries =>
    obtain ⟨key, value⟩ := entry
    obtain ⟨hvalue, hentries⟩ := List.forall_mem_cons.mp h
    simp only [write, List.append_assoc, List.cons_append, List.nil_append, List.length_cons,
      List.length_append] at hcs hfuel
    obtain ⟨fuel, rfl⟩ : ∃ n, fuel = n + 1 := ⟨fuel - 1, by omega⟩
    have hskip (tail : List Char) :
        skipSpace (newline (level + 1) ++ (writeText key ++ tail)) = writeText key ++ tail :=
      (skipSpace_newline _ _).trans (skipSpace_writeText key tail)
    rw [readValue_table hcs, hskip, readEntries_write hvalue hentries (skipSpace_writeText key _)]
    · rfl
    · dsimp only
      omega
    · intro tail
      rw [hskip, writeText]
      simp

private theorem IsIntegral.reads {v : Json} (h : IsIntegral v) : Reads v := by
  induction h with
  | null => exact reads_simple (fun _ ↦ rfl) (fun _ _ ↦ rfl) ⟨_, _, rfl, by decide⟩
  | bool b =>
    cases b <;> exact reads_simple (fun _ ↦ rfl) (fun _ _ ↦ rfl) ⟨_, _, rfl, by decide⟩
  | int n => exact reads_int n
  | text s => exact reads_text s
  | list h ih => exact reads_list fun item hitem ↦ ⟨h item hitem, ih item hitem⟩
  | table h ih => exact reads_table fun entry hentry ↦ ⟨h entry hentry, ih entry hentry⟩

/-- **What was written is read back as it was**, if all its numbers are integers. -/
theorem read?_render {v : Json} (h : IsIntegral v) : read? (render v) = some v := by
  have hread : readValue (2 * (render v).length + 2) (render v).toList = some (v, []) := by
    have hskip := h.skipSpace_write 0 []
    simp only [List.append_nil] at hskip
    apply h.reads 0
    · simpa [render] using hskip
    · exact delimits_nil
    · simp [render]
  rw [read?, hread]
  rfl

end ClassSchema.Json
