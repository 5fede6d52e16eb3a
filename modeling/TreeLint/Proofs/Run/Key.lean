import TreeLint.Proofs.Order
import TreeLint.Run.Cache

/-! # What a key covers

The bytes that are digested into a key can be taken apart again: each part stands after its
length, and the part of a rule ends in its severity, whose last letter is its own.  So inputs
have the same bytes exactly if they are the same but for the order of their rules
(`CacheInput.bytes_eq_iff`), and keys in hexadecimal digits are as different as the keys
themselves (`Sha256.toHex_inj`).
-/

namespace TreeLint

namespace Sha256

theorem length_digest (t : Text) : (digest t).length = 32 := by
  simp [digest, wordBytes]

theorem hexDigit_inj {m n : Nat} (hm : m < 16) (hn : n < 16)
    (h : Text.byte (Nat.digitChar m) = Text.byte (Nat.digitChar n)) : m = n := by
  have all : ∀ m n : Fin 16, Text.byte (Nat.digitChar m) = Text.byte (Nat.digitChar n) → m = n := by
    decide +kernel
  exact congrArg Fin.val (all ⟨m, hm⟩ ⟨n, hn⟩ h)

theorem hex_inj {a b : UInt8} (h : Text.hex 2 a.toNat = Text.hex 2 b.toNat) : a = b := by
  have digits : ∀ n, Text.hex 2 n
      = [Text.byte (Nat.digitChar (n / 16 % 16)), Text.byte (Nat.digitChar (n % 16))] := by
    intro n
    simp [Text.hex, List.range_succ]
  simp only [digits, List.cons.injEq, and_true] at h
  have high := hexDigit_inj (Nat.mod_lt _ (by decide)) (Nat.mod_lt _ (by decide)) h.1
  have low := hexDigit_inj (Nat.mod_lt _ (by decide)) (Nat.mod_lt _ (by decide)) h.2
  have := a.toNat_lt
  have := b.toNat_lt
  apply UInt8.toNat_inj.mp
  omega

theorem toHex_inj {s t : Text} (h : toHex s = toHex t) : s = t := by
  induction s generalizing t with
  | nil =>
    cases t with
    | nil => rfl
    | cons b t => simp [toHex, Text.hex, List.range_succ] at h
  | cons a s ih =>
    cases t with
    | nil => simp [toHex, Text.hex, List.range_succ] at h
    | cons b t =>
      simp only [toHex, List.flatMap_cons] at h
      obtain ⟨first, rest⟩ := List.append_inj h (by simp [Text.hex])
      rw [hex_inj first, ih rest]

end Sha256

namespace CacheInput

/-! ## Parts after their lengths -/

theorem length_littleEndian (width n : Nat) : (littleEndian width n).length = width := by
  simp [littleEndian]

theorem littleEndian_inj {m n : Nat} (hm : m < UInt32.size) (hn : n < UInt32.size)
    (h : littleEndian 4 m = littleEndian 4 n) : m = n := by
  have bytes : ∀ n, littleEndian 4 n = [(n % 256).toUInt8, (n / 256 % 256).toUInt8,
      (n / 65536 % 256).toUInt8, (n / 16777216 % 256).toUInt8] := by
    intro n
    simp [littleEndian, List.range_succ]
  have byte : ∀ {a b : Nat}, (a % 256).toUInt8 = (b % 256).toUInt8 → a % 256 = b % 256 := by
    intro a b eq
    have := congrArg UInt8.toNat eq
    simpa using this
  simp only [bytes, List.cons.injEq, and_true] at h
  obtain ⟨h0, h1, h2, h3⟩ := h
  have := byte h0
  have := byte h1
  have := byte h2
  have := byte h3
  simp only [UInt32.size] at hm hn
  omega

/-- Parts of a length that four bytes can hold are told apart. -/
theorem fields_inj {parts parts' : List Text} (short : ∀ t ∈ parts, t.length < UInt32.size)
    (short' : ∀ t ∈ parts', t.length < UInt32.size)
    (h : parts.flatMap field = parts'.flatMap field) : parts = parts' := by
  induction parts generalizing parts' with
  | nil =>
    cases parts' with
    | nil => rfl
    | cons t parts' =>
      have := congrArg List.length h
      simp only [List.flatMap_cons, List.flatMap_nil, field, List.length_append,
        length_littleEndian, List.length_nil] at this
      omega
  | cons t parts ih =>
    cases parts' with
    | nil =>
      have := congrArg List.length h
      simp [field, length_littleEndian] at this
    | cons u parts' =>
      rw [List.forall_mem_cons] at short short'
      -- The lengths come first and take four bytes each, so they say where the parts end.
      simp only [List.flatMap_cons, field, List.append_assoc] at h
      obtain ⟨lengths, rest⟩ := List.append_inj h (by simp only [length_littleEndian])
      obtain ⟨same, rest⟩ := List.append_inj rest (littleEndian_inj short.1 short'.1 lengths)
      rw [same, ih short.2 short'.2 rest]

/-- An input whose parts have a length that four bytes can hold. -/
structure Short (i : CacheInput) : Prop where
  parts : ∀ t ∈ [i.source, i.tree, i.path, i.cwd, i.config], t.length < UInt32.size
  rules : ∀ r ∈ i.rules, (ruleField r).length < UInt32.size

/-- The bytes of an input determine its parts, and its rules up to their order. -/
theorem bytes_inj {i j : CacheInput} (hi : i.Short) (hj : j.Short) (h : i.bytes = j.bytes) :
    [i.source, i.tree, i.path, i.cwd, i.config] = [j.source, j.tree, j.path, j.cwd, j.config] ∧
      (i.rules.map ruleField).Perm (j.rules.map ruleField) := by
  have version : Build.this.version.length < UInt32.size := by decide
  have short {i : CacheInput} (h : i.Short) :
      ∀ t ∈ [Build.this.version, i.source, i.tree, i.path, i.cwd, i.config]
        ++ Text.sorted (i.rules.map ruleField), t.length < UInt32.size := by
    refine List.forall_mem_append.mpr ⟨List.forall_mem_cons.mpr ⟨version, h.parts⟩, ?_⟩
    intro t mem
    rw [Text.sorted, List.mem_mergeSort] at mem
    obtain ⟨r, owned, rfl⟩ := List.mem_map.mp mem
    exact h.rules r owned
  simp only [bytes, List.append_assoc, ← List.flatMap_append] at h
  have parts := fields_inj (short hi) (short hj) (List.append_cancel_left h)
  obtain ⟨fixed, rules⟩ := List.append_inj parts rfl
  refine ⟨(List.cons.inj fixed).2, ?_⟩
  calc i.rules.map ruleField
    _ |>.Perm (Text.sorted (i.rules.map ruleField)) := (List.mergeSort_perm _ _).symm
    _ |>.Perm (j.rules.map ruleField) := rules ▸ List.mergeSort_perm _ _

/-! ## Rules -/

/-- The severities that a configuration can name. -/
def severities : List Severity := [.info, .warning, .error]

/-- A rule read back from its part: the last letter tells the severity, and the name is what
stands before the severity and the equals sign. -/
def ruleOf (t : Text) : Text × Severity :=
  let severity := (severities.find? (·.name.getLast? == t.getLast?)).getD .error
  (t.take (t.length - (1 + severity.name.length)), severity)

theorem ruleOf_ruleField {r : Text × Severity} (known : r.2 ∈ severities) :
    ruleOf (ruleField r) = r := by
  have ending : (ruleField r).getLast? = r.2.name.getLast? := by
    have named : ∀ s ∈ severities, (s.name.getLast?).isSome := by decide
    obtain ⟨last, eq⟩ := Option.isSome_iff_exists.mp (named r.2 known)
    rw [ruleField, List.getLast?_append, eq, Option.some_or]
  have severity : ∀ s ∈ severities,
      severities.find? (·.name.getLast? == s.name.getLast?) = some s := by decide
  have before : (ruleField r).length - (1 + r.2.name.length) = r.1.length := by
    have mark : (utf8 "=").length = 1 := by decide
    simp only [ruleField, List.length_append, mark]
    omega
  simp only [ruleOf, ending, severity r.2 known, Option.getD_some, before]
  rw [ruleField, List.append_assoc, List.take_left]

/-- Rules of the same parts are the same, whatever their order and their names. -/
theorem rules_perm {rules rules' : List (Text × Severity)}
    (known : ∀ r ∈ rules, r.2 ∈ severities) (known' : ∀ r ∈ rules', r.2 ∈ severities)
    (h : (rules.map ruleField).Perm (rules'.map ruleField)) : rules.Perm rules' := by
  have back {rules : List (Text × Severity)} (known : ∀ r ∈ rules, r.2 ∈ severities) :
      (rules.map ruleField).map ruleOf = rules := by
    rw [List.map_map]
    exact (List.map_congr_left fun r mem => ruleOf_ruleField (known r mem)).trans
      (List.map_id rules)
  have read := h.map ruleOf
  rwa [back known, back known'] at read

/-- Two inputs have the same bytes exactly if they have the same parts and the same rules
with the same severities, each as often, in whatever order.  A name may hold equals signs. -/
theorem bytes_eq_iff {i j : CacheInput} (hi : i.Short) (hj : j.Short)
    (known : ∀ r ∈ i.rules, r.2 ∈ severities) (known' : ∀ r ∈ j.rules, r.2 ∈ severities) :
    i.bytes = j.bytes ↔ i.source = j.source ∧ i.tree = j.tree ∧ i.path = j.path ∧
      i.cwd = j.cwd ∧ i.config = j.config ∧ i.rules.Perm j.rules := by
  constructor
  · intro same
    obtain ⟨parts, fields⟩ := bytes_inj hi hj same
    simp only [List.cons.injEq, and_true] at parts
    obtain ⟨source, tree, path, cwd, config⟩ := parts
    exact ⟨source, tree, path, cwd, config, rules_perm known known' fields⟩
  · rintro ⟨source, tree, path, cwd, config, rules⟩
    have sorted := Text.sorted_eq_of_perm (rules.map ruleField)
    simp only [bytes, source, tree, path, cwd, config, sorted]

/-- Equals signs in a name do not run into the one before the severity, and the order of the
rules does not matter. -/
theorem bytes_eq_iff_equals :
    let i : CacheInput := ⟨"s", "t", "a.ts", "/", "c", [("x", .info), ("x=INFO", .error)]⟩
    let j : CacheInput := ⟨"s", "t", "a.ts", "/", "c", [("x=INFO", .error), ("x", .info)]⟩
    i.Short ∧ j.Short ∧ (∀ r ∈ i.rules, r.2 ∈ severities) ∧ (∀ r ∈ j.rules, r.2 ∈ severities) ∧
      i.bytes = j.bytes := by
  intro i j
  have hi : i.Short := ⟨by decide, by decide⟩
  have hj : j.Short := ⟨by decide, by decide⟩
  have known : ∀ r ∈ i.rules, r.2 ∈ severities := by decide
  have known' : ∀ r ∈ j.rules, r.2 ∈ severities := by decide
  exact ⟨hi, hj, known, known',
    (bytes_eq_iff hi hj known known').mpr ⟨rfl, rfl, rfl, rfl, rfl, List.Perm.swap _ _ []⟩⟩

end CacheInput
end TreeLint
