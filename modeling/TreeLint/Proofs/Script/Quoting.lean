import TreeLint.Proofs.Script.Piece
import TreeLint.Proofs.Text.Clip

/-! # Quoted strings

A text is escaped for a quote by a backslash before each backslash and each such quote
(`Quoted.escaped`).  What is between double quotes reads back as the text that it was escaped
from, if that is UTF-8 on one line (`Quoted.decode?_escaped`): backslashes are put before ASCII
bytes alone, so a character of more bytes is read as it would be without them.

In a script the escaped text between two of its quotes is one token, the value of which is the text
(`tokenize_quoted`).  The token does not end early, since each quote inside stands behind a
backslash that is not itself taken along (`stringLength_escaped`); and between single quotes the
two replacements make of it what the text would be between double ones (`replace_escaped`).
-/

namespace TreeLint

namespace Quoted

open Text (byte)
open Utf8 (split pieces isValid)

variable {quote b : UInt8} {t rest : Text}

/-- A text with a backslash before each backslash and each quote. -/
def escaped (quote : UInt8) (t : Text) : Text :=
  t.flatMap fun b => if b = byte '\\' ∨ b = quote then [byte '\\', b] else [b]

@[simp] theorem escaped_nil : escaped quote [] = [] := rfl

@[simp] theorem escaped_append (s t : Text) :
    escaped quote (s ++ t) = escaped quote s ++ escaped quote t :=
  List.flatMap_append

theorem escaped_special (special : b = byte '\\' ∨ b = quote) (t : Text) :
    escaped quote (b :: t) = byte '\\' :: b :: escaped quote t := by
  rw [escaped, List.flatMap_cons, if_pos special]
  rfl

theorem escaped_plain (slash : b ≠ byte '\\') (mark : b ≠ quote) (t : Text) :
    escaped quote (b :: t) = b :: escaped quote t := by
  rw [escaped, List.flatMap_cons, if_neg (by simp [slash, mark])]
  rfl

theorem escaped_of_not_mem (slash : byte '\\' ∉ t) (mark : quote ∉ t) : escaped quote t = t := by
  induction t with
  | nil => rfl
  | cons b t ih =>
    simp only [List.mem_cons, not_or] at slash mark
    rw [escaped_plain (Ne.symm slash.1) (Ne.symm mark.1), ih slash.2 mark.2]

/-- Where no backslash stands none was put in. -/
theorem escaped_of_not_mem_escaped (h : byte '\\' ∉ escaped quote t) : escaped quote t = t := by
  induction t with
  | nil => rfl
  | cons b t ih =>
    by_cases special : b = byte '\\' ∨ b = quote
    · rw [escaped_special special] at h
      exact absurd List.mem_cons_self h
    · obtain ⟨slash, mark⟩ := not_or.mp special
      rw [escaped_plain slash mark] at h ⊢
      rw [ih fun mem => h (List.mem_cons_of_mem b mem)]

/-- An escaped text does not begin with the quote. -/
theorem head?_escaped (differs : quote ≠ byte '\\') (t : Text) :
    (escaped quote t).head? ≠ some quote := by
  cases t with
  | nil => simp
  | cons b t =>
    by_cases special : b = byte '\\' ∨ b = quote
    · rw [escaped_special special]
      simpa using Ne.symm differs
    · obtain ⟨slash, mark⟩ := not_or.mp special
      rw [escaped_plain slash mark]
      simpa using mark

/-! ## Reading back -/

theorem unescape?_special (special : b = byte '\\' ∨ b = byte '"') (t : Text) :
    unescape? (b :: t) = some ([b], t) := by
  obtain rfl | rfl := special <;> rfl

/-- A character that is not special is read from an escaped text as from the text. -/
theorem split_escaped {c : Char} {r : Text} (ascii : quote.toNat < 0x80) (slash : b ≠ byte '\\')
    (mark : b ≠ quote) (h : split b rest = (.char c, r)) :
    b :: rest = Utf8.encode c ++ r ∧ ∃ read, escaped quote (b :: rest) = b :: read ∧
      split b read = (.char c, escaped quote r) := by
  have bytes := Utf8.bytes_split b rest
  have plain {a : UInt8} (small : a.toNat < 0x80) (mem : a ∈ Utf8.encode c) : a = b :=
    Utf8.eq_of_mem_split small (by rw [h]; exact mem)
  obtain ⟨read, rfl, same⟩ := Utf8.split_char h
  rw [h] at bytes
  have encode : Utf8.encode c = b :: read :=
    List.append_cancel_right (bytes.trans (List.cons_append ..).symm)
  rw [encode] at plain
  have inside : escaped quote (b :: read) = b :: read :=
    escaped_of_not_mem (fun mem => slash (plain (by decide) mem).symm)
      fun mem => mark (plain ascii mem).symm
  refine ⟨bytes.symm, read ++ escaped quote r, ?_, same _⟩
  rw [← List.cons_append, escaped_append, inside, List.cons_append]

/-- Each step reads a special byte with the backslash before it, or a character as it is. -/
theorem decodeBody_escaped {fuel : Nat} (valid : isValid t) (line : 10 ∉ t)
    (enough : (escaped (byte '"') t).length ≤ fuel) :
    decodeBody fuel (escaped (byte '"') t) = some t := by
  induction t using TreeLint.Utf8.pieces.induct generalizing fuel with
  | case1 => rw [escaped_nil, decodeBody]
  | case2 b rest ih =>
    rw [isValid, pieces, List.all_cons, Bool.and_eq_true] at valid
    obtain ⟨first, valid⟩ := valid
    rcases Utf8.split_cases b rest with ⟨c, r, whole⟩ | stray
    · rw [whole] at valid ih
      by_cases special : b = byte '\\' ∨ b = byte '"'
      · have alone : split b rest = (.char (Char.ofNat b.toNat), rest) := by
          obtain rfl | rfl := special <;> rfl
        obtain ⟨-, rfl⟩ := Prod.mk.inj (whole.symm.trans alone)
        rw [escaped_special special] at enough ⊢
        cases fuel with
        | zero => contradiction
        | succ fuel =>
          have later : decodeBody fuel (escaped (byte '"') r) = some r :=
            ih valid (fun mem => line (List.mem_cons_of_mem b mem))
              (Nat.le_of_succ_le (Nat.le_of_succ_le_succ enough))
          rw [decodeBody, if_neg (by decide), if_pos (by decide), unescape?_special special]
          simp only [later]
          rfl
      · obtain ⟨slash, mark⟩ := not_or.mp special
        obtain ⟨text, read, escape, again⟩ := split_escaped (by decide) slash mark whole
        rw [escape] at enough ⊢
        cases fuel with
        | zero => contradiction
        | succ fuel =>
          have shorter := Utf8.split_length_le b read
          rw [again] at shorter
          have later : decodeBody fuel (escaped (byte '"') r) = some r :=
            ih valid (fun mem => line (text ▸ List.mem_append_right _ mem))
              (shorter.trans (Nat.le_of_succ_le_succ enough))
          have bare : ¬ (b == 34 || b == 10) = true := by
            simp only [Bool.or_eq_true, beq_iff_eq, not_or]
            exact ⟨mark, fun same => line (same ▸ List.mem_cons_self)⟩
          have ordinary : ¬ (b == 92) = true := beq_iff_eq.not.mpr slash
          rw [decodeBody, if_neg bare, if_neg ordinary, again]
          simp only [later, Option.map_some, Utf8.Piece.toChar, text]
    · rw [stray] at first
      contradiction

/-- Between double quotes an escaped text of one line reads back as the text. -/
theorem decode?_escaped (valid : isValid t) (line : 10 ∉ t) :
    decode? (escaped (byte '"') t) = some t :=
  decodeBody_escaped valid line (Nat.le_refl _)

end Quoted

namespace Text

/-- Replacing a single byte replaces each of them. -/
theorem replace_byte (b : UInt8) (new t : Text) :
    replace t [b] new = t.flatMap fun c => if c = b then new else [c] := by
  rw [replace]
  induction t with
  | nil => rfl
  | cons c t ih =>
    rw [replaceFrom, List.flatMap_cons, List.length_singleton, Nat.sub_self, ih]
    by_cases same : c = b
    · simp [startsWith, same]
    · simp [startsWith, same, Ne.symm same]

end Text

namespace Script

open Text (byte replace replaceFrom startsWith)
open Quoted (escaped escaped_special escaped_plain escaped_of_not_mem_escaped head?_escaped
  decode?_escaped)

variable {quote : UInt8} {t : Text}

/-! ## The value of a string -/

/-- An escaped single quote is found where a backslash stands before one. -/
theorem startsWith_mark {b : UInt8} :
    startsWith (b :: t) "\\'" ↔ b = byte '\\' ∧ t.head? = some (byte '\'') := by
  have mark : utf8 "\\'" = [byte '\\', byte '\''] := rfl
  rw [startsWith, mark, List.isPrefixOf_iff_prefix, List.cons_prefix_cons]
  refine and_congr ⟨Eq.symm, Eq.symm⟩ ?_
  cases t with
  | nil => simp
  | cons c t => simpa using ⟨Eq.symm, Eq.symm⟩

/-- Unescaping the single quotes leaves the backslashes escaped: the last of some that stand in a
row before a quote is the one that escapes it. -/
theorem replace_single (t : Text) :
    replace (escaped (byte '\'') t) "\\'" "'" = escaped (byte '\\') t := by
  rw [replace]
  induction t with
  | nil => rfl
  | cons b t ih =>
    by_cases mark : b = byte '\''
    · subst mark
      rw [escaped_special (.inr rfl), escaped_plain (by decide) (by decide), ← ih]
      rfl
    by_cases slash : b = byte '\\'
    · subst slash
      have first : ¬ startsWith (byte '\\' :: byte '\\' :: escaped (byte '\'') t) "\\'" = true :=
        fun found => absurd (startsWith_mark.mp found).2 (by simp [mark])
      have second : ¬ startsWith (byte '\\' :: escaped (byte '\'') t) "\\'" = true :=
        fun found => head?_escaped (by decide) t (startsWith_mark.mp found).2
      rw [escaped_special (.inl rfl), escaped_special (.inl rfl), ← ih, replaceFrom, if_neg first,
        replaceFrom, if_neg second]
    · have here : ¬ startsWith (b :: escaped (byte '\'') t) "\\'" = true :=
        fun found => slash (startsWith_mark.mp found).1
      rw [escaped_plain slash mark, escaped_plain slash slash, ← ih, replaceFrom, if_neg here]

/-- What single quotes escape becomes what double quotes do. -/
theorem replace_escaped (t : Text) :
    replace (replace (escaped (byte '\'') t) "\\'" "'") "\"" "\\\"" = escaped (byte '"') t := by
  have quotes : utf8 "\"" = [byte '"'] := rfl
  rw [replace_single, quotes, Text.replace_byte, escaped, escaped, List.flatMap_assoc]
  refine List.flatMap_congr fun b _ => ?_
  by_cases mark : b = byte '"'
  · subst mark
    rfl
  by_cases slash : b = byte '\\'
  · subst slash
    rfl
  · simp [slash, mark]

theorem stringValue_escaped (mark : quote = byte '\'' ∨ quote = byte '"') (valid : Utf8.isValid t)
    (line : 10 ∉ t) : stringValue (quote :: (escaped quote t ++ [quote])) = t := by
  rw [stringValue, List.drop_succ_cons, List.drop_zero, List.dropLast_concat]
  by_cases slash : byte '\\' ∈ escaped quote t
  · rw [if_neg (by simpa using slash)]
    obtain rfl | rfl := mark
    · rw [if_pos (by simp)]
      simp only [replace_escaped, decode?_escaped valid line, Option.getD_some]
    · rw [if_neg (by simp [byte])]
      simp only [decode?_escaped valid line, Option.getD_some]
  · rw [if_pos (by simpa using slash)]
    exact escaped_of_not_mem_escaped slash

/-! ## The token -/

/-- A string goes on to the end of an escaped text. -/
theorem stringLength_escaped (mark : quote = byte '\'' ∨ quote = byte '"') (line : 10 ∉ t) :
    stringLength quote (escaped quote t ++ [quote]) = .ok ((escaped quote t).length + 1) := by
  induction t with
  | nil => obtain rfl | rfl := mark <;> rfl
  | cons b t ih =>
    obtain ⟨notLine, line⟩ := not_or.mp (List.mem_cons.not.mp line)
    by_cases special : b = byte '\\' ∨ b = quote
    · rw [escaped_special special, List.cons_append, List.cons_append, stringLength,
        if_pos (beq_self_eq_true _), ih line]
      rfl
    · obtain ⟨slash, other⟩ := not_or.mp special
      rw [escaped_plain slash other, List.cons_append, stringLength.eq_def]
      simp [slash, other, Ne.symm notLine, ih line, Except.map]

/-- A text of one line is escaped for a quote and put between two of them: this is a string, the
value of which is the text, and nothing but the end follows it. -/
theorem tokenize_quoted {file : FileId} {text : Text} (mark : quote = byte '\'' ∨ quote = byte '"')
    (valid : Utf8.isValid text) (line : 10 ∉ text) :
    let source := quote :: (escaped quote text ++ [quote])
    tokenize file source = .ok {
      tokens := [
        { kind := .string, text := source, value := text, start := 0
          stop := source.length.toUInt32 },
        .ofText .eof [] source.length]
      comments := [] } := by
  intro source
  have inside := stringLength_escaped mark line
  have length : (escaped quote text ++ [quote]).length = (escaped quote text).length + 1 :=
    List.length_append
  rw [← length] at inside
  have fits : Piece.Fits ⟨.token .string, source⟩ [] := (Piece.Takes.string mark inside).fits
  obtain ⟨b, front, same, step⟩ := fits
  cases same
  rw [List.append_nil] at step
  have others : source.length - 1 = (escaped quote text ++ [quote]).length := rfl
  have all : 0 + 1 + (escaped quote text ++ [quote]).length = source.length := by
    rw [List.length_cons, Nat.zero_add, Nat.add_comm]
  rw [tokenize, tokensFrom, step]
  simp only [others, all, List.drop_length, List.take_length, tokensFrom, Token.ofText, if_true,
    stringValue_escaped mark valid line, Nat.zero_add]
  rfl

/-- Backslashes before either quote and before a character of two bytes, in either style. -/
theorem tokenize_quoted_slashes :
    let text := utf8 "\\'\\\\\"\\é"
    let single := utf8 "'\\\\\\'\\\\\\\\\"\\\\é'"
    let double := utf8 "\"\\\\'\\\\\\\\\\\"\\\\é\""
    Utf8.isValid text ∧ 10 ∉ text ∧
      tokenize 0 single
        = .ok ⟨[⟨.string, single, text, 0, 15⟩, .ofText .eof [] 15], []⟩ ∧
      tokenize 0 double
        = .ok ⟨[⟨.string, double, text, 0, 15⟩, .ofText .eof [] 15], []⟩ := by
  intro text single double
  have valid : Utf8.isValid text := by decide +kernel
  have line : 10 ∉ text := by decide
  exact ⟨valid, line, tokenize_quoted (.inl rfl) valid line, tokenize_quoted (.inr rfl) valid line⟩

end Script
end TreeLint
