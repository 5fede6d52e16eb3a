import TreeLint.Proofs.Lint.Entries
import TreeLint.Proofs.Run.Key

/-! # The entries of a run

However the rules of a run are picked, by name, by a configuration or by neither, each of
them is a rule of this program and none is taken twice.  Its severity and its options are
those that the configuration has for its name, so they follow from the configuration and the
name (`Entry.regular_of_resolve`), and the severity is one of three
(`Config.severity_of_parse`).
-/

namespace TreeLint

section Traversal

variable {ε α β : Type} {f : α → Except ε β}

theorem mapM_cons_eq_ok {a : α} {l : List α} {found : List β} (h : (a :: l).mapM f = .ok found) :
    ∃ b rest, f a = .ok b ∧ l.mapM f = .ok rest ∧ found = b :: rest := by
  rw [List.mapM_cons] at h
  cases first : f a with
  | error e => rw [first] at h; contradiction
  | ok b =>
    cases rest : l.mapM f with
    | error e => rw [first, rest] at h; contradiction
    | ok bs =>
      rw [first, rest] at h
      cases h
      exact ⟨b, bs, rfl, rfl, rfl⟩

theorem mem_of_mapM {l : List α} {found : List β} (h : l.mapM f = .ok found) :
    ∀ b ∈ found, ∃ a ∈ l, f a = .ok b := by
  induction l generalizing found with
  | nil =>
    cases h
    simp
  | cons a l ih =>
    obtain ⟨b, rest, first, later, rfl⟩ := mapM_cons_eq_ok h
    refine List.forall_mem_cons.mpr ⟨⟨a, List.mem_cons_self, first⟩, fun b mem => ?_⟩
    obtain ⟨a', there, eq⟩ := ih later b mem
    exact ⟨a', List.mem_cons_of_mem _ there, eq⟩

theorem map_of_mapM {γ : Type} {name : β → γ} {names : α → γ} {l : List α} {found : List β}
    (each : ∀ a ∈ l, ∀ b, f a = .ok b → name b = names a) (h : l.mapM f = .ok found) :
    found.map name = l.map names := by
  induction l generalizing found with
  | nil =>
    cases h
    rfl
  | cons a l ih =>
    obtain ⟨b, rest, first, later, rfl⟩ := mapM_cons_eq_ok h
    rw [List.forall_mem_cons] at each
    rw [List.map_cons, List.map_cons, each.1 b first, ih each.2 later]

end Traversal

namespace Rule

/-- A rule about styles of import is set up with the pairs of its options. -/
theorem importStyle_created {accepts : ImportStyle.Matcher} {c : Context} {v : Visitor}
    (h : (importStyleWith accepts).create c = .ok v) :
    ∃ s, ImportStyle.settings c.options = .ok s ∧ v = ImportStyle.visitor c accepts s := by
  simp only [importStyleWith, bind, Except.bind, pure, Except.pure] at h
  split at h
  · contradiction
  next s read => exact ⟨s, read, (Except.ok.inj h).symm⟩

theorem paramTypes_created {c : Context} {v : Visitor} (h : paramTypes.create c = .ok v) :
    ∃ s, ParamTypes.settings c = .ok s ∧ v = ParamTypes.visitor c.tree s := by
  simp only [paramTypes, bind, Except.bind, pure, Except.pure] at h
  split at h
  · contradiction
  next s read => exact ⟨s, read, (Except.ok.inj h).symm⟩

theorem find?_name {r : Rule} (h : r ∈ all) : find? r.name = some r := by
  simp only [all, List.mem_cons, List.not_mem_nil, or_false] at h
  obtain rfl | rfl | rfl | rfl | rfl | rfl | rfl | rfl := h <;> rfl

theorem mem_of_find? {name : Text} {r : Rule} (h : find? name = some r) :
    r ∈ all ∧ r.name = name :=
  ⟨List.mem_of_find?_eq_some h, by simpa using List.find?_some h⟩

end Rule

namespace Config

/-- The rules of a configuration, if there is one. -/
def rulesOf (config? : Option Config) : List RuleConfig := (config?.map rules).getD []

def severityOf (rules : List RuleConfig) (name : Text) : Severity :=
  ((rules.find? (·.name == name)).map (·.severity)).getD .error

def optionsOf (rules : List RuleConfig) (name : Text) : Options :=
  ((rules.find? (·.name == name)).map (·.options)).getD .empty

theorem find?_name {rules : List RuleConfig} (distinct : (rules.map (·.name)).Nodup)
    {c : RuleConfig} (mem : c ∈ rules) : rules.find? (·.name == c.name) = some c := by
  cases found : rules.find? (·.name == c.name) with
  | none =>
    rw [List.find?_eq_none] at found
    exact absurd (beq_self_eq_true c.name) (found c mem)
  | some d =>
    have same : d.name = c.name := by simpa using List.find?_some found
    rw [List.inj_on_of_nodup_map distinct (List.mem_of_find?_eq_some found) mem same]

theorem severity_of_ofName? {name : Text} {s : Severity} (h : Severity.ofName? name = some s) :
    s ∈ CacheInput.severities := by
  simp only [Severity.ofName?] at h
  split at h
  · cases h
    decide
  split at h
  · cases h
    decide
  split at h
  · cases h
    decide
  · contradiction

theorem severity_of_ruleConfig {d : Toml.Document} {name : Text} {t : RuleTable} {c : RuleConfig}
    (h : ruleConfig d name t = .ok c) : c.severity ∈ CacheInput.severities := by
  simp only [ruleConfig, bind, Except.bind, pure, Except.pure] at h
  have error : Severity.error ∈ CacheInput.severities := by decide
  split at h
  · split at h
    · split at h
      · cases h
        exact error
      · contradiction
    · cases h
      exact error
  split at h
  next s named =>
    have known := severity_of_ofName? named
    split at h
    · split at h
      · cases h
        exact known
      · contradiction
    · cases h
      exact known
  · contradiction

/-- The severities of a configuration that was read are those that it can name. -/
theorem severity_of_parse {t : Text} {c : Config} (h : parse t = .ok c) :
    ∀ r ∈ c.rules, r.severity ∈ CacheInput.severities := by
  simp only [parse, bind, Except.bind, pure, Except.pure] at h
  split at h
  · contradiction
  split at h
  next raw _ =>
    split at h
    · contradiction
    split at h
    · contradiction
    split at h
    · contradiction
    next rules made =>
      cases h
      intro r mem
      obtain ⟨written, -, eq⟩ := mem_of_mapM made r mem
      exact severity_of_ruleConfig eq
  · contradiction

end Config

namespace Entry

/-- Entries that a linter of this program can have: known rules, each of them once. -/
structure Regular (entries : List Entry) : Prop where
  known : ∀ e ∈ entries, e.rule ∈ Rule.all
  distinct : (entries.map name).Nodup

theorem Regular.whole {entries : List Entry} (h : Regular entries) :
    ∀ e ∈ entries, e.name ≠ [] ∧ 47 ∉ e.name := by
  have all : ∀ r ∈ Rule.all, r.name ≠ [] ∧ 47 ∉ r.name := by decide +kernel
  exact fun e mem => all e.rule (h.known e mem)

/-- A known rule, as a configuration has it or else as usual. -/
structure Configured (rules : List RuleConfig) (e : Entry) : Prop where
  known : e.rule ∈ Rule.all
  severity : e.severity = Config.severityOf rules e.name
  options : e.options = Config.optionsOf rules e.name

variable {rules : List RuleConfig}

theorem configured_of_picked {picks : Text} {e : Entry} (h : picked rules picks = .ok e) :
    e.Configured rules ∧ e.name = picks := by
  simp only [picked] at h
  split at h
  · contradiction
  next r found =>
    obtain ⟨known, rfl⟩ := Rule.mem_of_find? found
    split at h
    next c there =>
      cases h
      refine ⟨⟨known, ?_, ?_⟩, rfl⟩
      · simp [Config.severityOf, name, there]
      · simp [Config.optionsOf, name, there]
    next absent =>
      cases h
      refine ⟨⟨known, ?_, ?_⟩, rfl⟩
      · simp [Config.severityOf, name, absent]
      · simp [Config.optionsOf, name, absent]

theorem configured_of_configured (distinct : (rules.map (·.name)).Nodup) {file : Text}
    {c : RuleConfig} (mem : c ∈ rules) {e : Entry} (h : configured file c = .ok e) :
    e.Configured rules ∧ e.name = c.name := by
  simp only [configured] at h
  split at h
  next r found =>
    cases h
    obtain ⟨known, named⟩ := Rule.mem_of_find? found
    have there := Config.find?_name distinct mem
    refine ⟨⟨known, ?_, ?_⟩, named⟩
    · simp [Config.severityOf, name, named, there]
    · simp [Config.optionsOf, name, named, there]
  · contradiction

/-! ## Names picked twice -/

theorem notMem_of_mem_distinct {seen names : List Text} {n : Text}
    (h : n ∈ resolve.distinct seen names) : n ∉ seen := by
  induction names generalizing seen with
  | nil => contradiction
  | cons m names ih =>
    simp only [resolve.distinct] at h
    split at h
    · exact ih h
    next new =>
      rcases List.mem_cons.mp h with rfl | later
      · simpa using new
      · exact fun mem => ih later (List.mem_cons_of_mem m mem)

theorem nodup_distinct (seen names : List Text) : (resolve.distinct seen names).Nodup := by
  induction names generalizing seen with
  | nil => exact List.nodup_nil
  | cons n names ih =>
    simp only [resolve.distinct]
    split
    · exact ih seen
    · refine List.nodup_cons.mpr ⟨fun mem => ?_, ih (n :: seen)⟩
      exact notMem_of_mem_distinct mem List.mem_cons_self

/-! ## Resolving -/

/-- The entries of a run are as its configuration has them, each rule once. -/
theorem regular_of_resolve {config? : Option Config} {only : List Text} {entries : List Entry}
    (distinct : ((Config.rulesOf config?).map (·.name)).Nodup)
    (h : resolve config? only = .ok entries) :
    Regular entries ∧ ∀ e ∈ entries, e.Configured (Config.rulesOf config?) := by
  suffices both : (∀ e ∈ entries, e.Configured (Config.rulesOf config?)) ∧
      (entries.map name).Nodup by
    exact ⟨⟨fun e mem => (both.1 e mem).known, both.2⟩, both.1⟩
  simp only [resolve] at h
  split at h
  · refine ⟨fun e mem => ?_, ?_⟩
    · obtain ⟨n, -, eq⟩ := mem_of_mapM h e mem
      exact (configured_of_picked eq).1
    · rw [map_of_mapM (fun n _ e eq => (configured_of_picked eq).2) h, List.map_id']
      exact nodup_distinct [] only
  split at h
  next none =>
    cases h
    rw [List.isEmpty_iff] at none
    refine ⟨fun e mem => ?_, by decide +kernel⟩
    obtain ⟨r, picked, rfl⟩ := List.mem_map.mp mem
    refine ⟨(List.mem_filter.mp picked).1, ?_, ?_⟩
    · simp [Config.severityOf, Config.rulesOf, none]
    · simp [Config.optionsOf, Config.rulesOf, none]
  · have each {file : Text} {c : RuleConfig} (mem : c ∈ (Config.rulesOf config?).filter (!·.off))
        {e : Entry} (eq : configured file c = .ok e) :
        e.Configured (Config.rulesOf config?) ∧ e.name = c.name :=
      configured_of_configured distinct (List.mem_filter.mp mem).1 eq
    refine ⟨fun e mem => ?_, ?_⟩
    · obtain ⟨c, there, eq⟩ := mem_of_mapM h e mem
      exact (each there eq).1
    · rw [map_of_mapM (fun c mem e eq => (each mem eq).2) h]
      exact distinct.sublist (List.filter_sublist.map _)

end Entry
end TreeLint
