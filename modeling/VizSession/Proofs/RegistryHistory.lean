import VizSession.Registry
import Mathlib.Data.List.Nodup
import Mathlib.Data.List.Induction

/-!
# The registry and its history

What a registry knows can be read off the history of the changes that were made to it : the
functions that were contributed, in their order (`Registry.contributions`), the plugins that
were scanned (`Registry.scans`) and the names that were reserved (`Registry.withheld`). A name
that is public and was never reserved has the last function contributed under it, no other
name has one, and the names stand in the order in which they were first contributed
(`Registry.Records`).

When a name was reserved does not matter : before the reservation its function is dropped,
after it functions are refused.
-/

namespace VizSession

/-! ## Lists without repetitions -/

section EraseDups

variable {α : Type} [BEq α] [LawfulBEq α]

theorem eraseDups_concat (l : List α) (a : α) :
    (l ++ [a]).eraseDups = if a ∈ l then l.eraseDups else l.eraseDups ++ [a] := by
  rw [List.eraseDups_append]
  by_cases h : a ∈ l
  · simp [List.removeAll, h]
  · simp [List.removeAll, h, List.eraseDups_cons]

theorem nodup_eraseDups (l : List α) : l.eraseDups.Nodup := by
  induction l using List.reverseRecOn with
  | nil => exact List.nodup_nil
  | append_singleton l a ih =>
    rw [eraseDups_concat]
    split
    · exact ih
    · rename_i h
      exact ih.append (List.nodup_singleton a)
        (List.disjoint_singleton.mpr fun hmem => h (List.mem_eraseDups.mp hmem))

/-- What is added to the end of a list unless it is there comes in the order in which it was first
added. -/
theorem foldl_append_new (l new : List α) :
    new.foldl (fun l a => if a ∈ l then l else l ++ [a]) l =
      l ++ new.eraseDups.filter fun a => a ∉ l := by
  induction new using List.reverseRecOn with
  | nil => simp
  | append_singleton new a ih =>
    rw [List.foldl_concat, ih, eraseDups_concat]
    by_cases hold : a ∈ l
    · rw [if_pos (List.mem_append_left _ hold)]
      split <;> simp [hold]
    · by_cases hnew : a ∈ new
      · rw [if_pos hnew, if_pos]
        simp [hold, List.mem_eraseDups, hnew]
      · rw [if_neg hnew, if_neg]
        · simp [hold]
        · simp [hold, List.mem_eraseDups, hnew]

end EraseDups

namespace Registry

/-! ## What a history says -/

/-- The functions of a plugin, if it can be scanned. -/
def contributed (p : Plugin) : List Entry :=
  match p.contributions with
  | .ok callables => callables.map fun c => ⟨p.name, c⟩
  | .error _ => []

/-- The name of a plugin, if it can be scanned. -/
def scanned (p : Plugin) : List String :=
  match p.contributions with
  | .ok _ => [p.name]
  | .error _ => []

/-- The plugins that a change is to scan. -/
def Op.plugins : Op → List Plugin
  | .reserve .. => []
  | .register p => [p]
  | .registerAll ps => ps

/-- The name that a change reserves. -/
def Op.reserved? : Op → Option String
  | .reserve name _ => some name
  | .register _ | .registerAll _ => none

/-- The functions that were contributed in the course of a history. -/
def contributions (history : List Op) : List Entry :=
  (history.flatMap Op.plugins).flatMap contributed

/-- The names of the plugins that were scanned in the course of a history. -/
def scans (history : List Op) : List String := (history.flatMap Op.plugins).flatMap scanned

/-- The names that were reserved in the course of a history. -/
def withheld (history : List Op) : List String := history.filterMap Op.reserved?

/-- The last of some functions under a name. -/
def last? (entries : List Entry) (n : String) : Option Entry :=
  (entries.filter fun entry => entry.callable.name = n).getLast?

theorem last?_concat (entries : List Entry) (entry : Entry) (n : String) :
    last? (entries ++ [entry]) n =
      if entry.callable.name = n then some entry else last? entries n := by
  unfold last?
  rw [List.filter_append]
  by_cases h : entry.callable.name = n
  · simp [h]
  · simp [h]

theorem mem_of_last? {entries : List Entry} {n : String} {entry : Entry}
    (h : last? entries n = some entry) : entry ∈ entries ∧ entry.callable.name = n := by
  simpa using List.mem_of_getLast? h

/-! ## What the registry keeps of it -/

/-- The name is public and not among those reserved. -/
def Open (withheld : List String) (n : String) : Prop :=
  ExportName.isPublic n = true ∧ n ∉ withheld

instance (withheld : List String) (n : String) : Decidable (Open withheld n) :=
  inferInstanceAs (Decidable (_ ∧ _))

theorem open_concat_iff {withheld : List String} {name n : String} :
    Open (withheld ++ [name]) n ↔ n ≠ name ∧ Open withheld n := by
  unfold Open
  rw [List.mem_append, List.mem_singleton, not_or]
  exact ⟨fun ⟨hpublic, hmem, hne⟩ => ⟨hne, hpublic, hmem⟩,
    fun ⟨hne, hpublic, hmem⟩ => ⟨hpublic, hmem, hne⟩⟩

/-- The registry is what the reserved names, the functions contributed and the plugins scanned
make it. -/
structure Records (r : Registry) (withheld : List String) (entries : List Entry)
    (scans : List String) : Prop where
  /-- It has reserved the names. -/
  reserved : ∀ n, n ∈ r.reserved.keys ↔ n ∈ withheld
  /-- A name that is open has the last function contributed under it. -/
  found : ∀ n, r.entries.find? n = if Open withheld n then last? entries n else none
  /-- The names are in the order of the first contributions. -/
  names : r.names =
    (entries.map fun entry => entry.callable.name).eraseDups.filter fun n => Open withheld n
  /-- The plugins are in the order of the first scans. -/
  plugins : r.plugins = scans.eraseDups

theorem records_empty : empty.Records [] [] [] where
  reserved _ := Iff.rfl
  found n := by
    split
    · rfl
    · rfl
  names := rfl
  plugins := rfl

section Records

variable {r : Registry} {withheld : List String} {entries : List Entry} {scans : List String}

/-- A name that is reserved loses its function and its place, and is not open any more. -/
theorem Records.reserve (h : r.Records withheld entries scans) (name owner : String) :
    (r.reserve name owner).2.Records (withheld ++ [name]) entries scans where
  reserved n := by
    have hkeys : n ∈ (r.reserve name owner).2.reserved.keys ↔ n ∈ r.reserved.keys ∨ n = name :=
      OrderedMap.mem_keys_insert
    rw [hkeys, h.reserved, List.mem_append, List.mem_singleton]
  found n := by
    have hfound : (r.reserve name owner).2.entries.find? n =
        if name = n then none else r.entries.find? n := OrderedMap.find?_erase ..
    rw [hfound, h.found]
    by_cases hn : name = n
    · rw [if_pos hn, if_neg fun hopen => (open_concat_iff.mp hopen).1 hn.symm]
    · rw [if_neg hn]
      refine if_congr ?_ rfl rfl
      rw [open_concat_iff, and_iff_right (Ne.symm hn)]
  names := by
    have hnames : (r.reserve name owner).2.names = r.names.filter (· ≠ name) :=
      OrderedMap.keys_erase ..
    rw [hnames, h.names, List.filter_filter]
    refine List.filter_congr fun n _ => ?_
    rw [← Bool.decide_and]
    exact decide_eq_decide.mpr open_concat_iff.symm
  plugins := h.plugins

/-- A function whose name is not open leaves the registry as it is. -/
theorem Records.refuse (h : r.Records withheld entries scans) (entry : Entry)
    (hclosed : ¬Open withheld entry.callable.name) :
    r.Records withheld (entries ++ [entry]) scans where
  reserved := h.reserved
  found n := by
    rw [h.found, last?_concat]
    by_cases hn : entry.callable.name = n
    · rw [if_neg (hn ▸ hclosed), if_neg (hn ▸ hclosed)]
    · rw [if_neg hn]
  names := by
    rw [h.names, List.map_append, List.map_singleton, eraseDups_concat]
    split
    · rfl
    · simp [hclosed]
  plugins := h.plugins

/-- A function whose name is open is registered, in place of the one that was. -/
theorem Records.accept (h : r.Records withheld entries scans) (entry : Entry)
    (hopen : Open withheld entry.callable.name) :
    ({ r with entries := r.entries.insert entry.callable.name entry } : Registry).Records
      withheld (entries ++ [entry]) scans where
  reserved := h.reserved
  found n := by
    dsimp only
    rw [OrderedMap.find?_insert, last?_concat]
    by_cases hn : entry.callable.name = n
    · rw [if_pos hn, if_pos hn, if_pos (hn ▸ hopen)]
    · rw [if_neg hn, if_neg hn, h.found]
  names := by
    have hkeys : r.entries.keys = r.names := rfl
    unfold Registry.names
    dsimp only
    rw [OrderedMap.keys_insert, hkeys, h.names, List.map_append, List.map_singleton,
      eraseDups_concat]
    by_cases hmem : entry.callable.name ∈ entries.map fun entry => entry.callable.name
    · rw [if_pos hmem, if_pos]
      exact List.mem_filter.mpr ⟨List.mem_eraseDups.mpr hmem, decide_eq_true hopen⟩
    · rw [if_neg hmem, if_neg]
      · simp [hopen]
      · exact fun hname => hmem (List.mem_eraseDups.mp (List.mem_filter.mp hname).1)
  plugins := h.plugins

theorem Records.markScanned (h : r.Records withheld entries scans) (plugin : String) :
    (r.markScanned plugin).Records withheld entries (scans ++ [plugin]) := by
  unfold Registry.markScanned
  have hmem : plugin ∈ r.plugins ↔ plugin ∈ scans := by rw [h.plugins, List.mem_eraseDups]
  split
  · rename_i hscanned
    refine ⟨h.reserved, h.found, h.names, ?_⟩
    rw [eraseDups_concat, if_pos (hmem.mp hscanned), h.plugins]
  · rename_i hscanned
    refine ⟨h.reserved, h.found, h.names, ?_⟩
    rw [eraseDups_concat, if_neg fun hs => hscanned (hmem.mpr hs), h.plugins]

/-- One function of a plugin is registered or refused. -/
theorem Records.enroll {state : Registration × Registry}
    (h : state.2.Records withheld entries scans) (plugin : String) (c : Callable) :
    (enroll plugin state c).2.Records withheld (entries ++ [⟨plugin, c⟩]) scans := by
  obtain ⟨report, r⟩ := state
  have howner : (r.owner? c.name).isSome ↔ c.name ∈ withheld :=
    OrderedMap.mem_keys_iff.symm.trans (h.reserved c.name)
  rcases enroll_cases plugin report r c with ⟨hpublic, henroll⟩ | ⟨owner, -, hc, henroll⟩ |
    ⟨hpublic, hc, henroll⟩
  · rw [henroll]
    refine h.refuse ⟨plugin, c⟩ fun hopen => ?_
    rw [hopen.1] at hpublic
    cases hpublic
  · rw [henroll]
    rw [hc] at howner
    exact h.refuse ⟨plugin, c⟩ fun hopen => hopen.2 (howner.mp rfl)
  · rw [henroll]
    rw [hc] at howner
    have hopen : Open withheld c.name := ⟨hpublic, fun hmem => nomatch howner.mpr hmem⟩
    exact h.accept ⟨plugin, c⟩ hopen

theorem Records.foldl_enroll (cs : List Callable) {state : Registration × Registry}
    (h : state.2.Records withheld entries scans) (plugin : String) :
    (cs.foldl (Registry.enroll plugin) state).2.Records withheld
      (entries ++ cs.map fun c => ⟨plugin, c⟩) scans := by
  induction cs generalizing state entries with
  | nil => simpa using h
  | cons c cs ih => simpa using ih (h.enroll plugin c)

theorem Records.register (h : r.Records withheld entries scans) (p : Plugin) :
    (register p r).2.Records withheld (entries ++ contributed p) (scans ++ scanned p) := by
  unfold Registry.register contributed scanned
  cases p.contributions with
  | error cause => simpa using h
  | ok cs =>
    have hcs : (cs.foldl (Registry.enroll p.name) (.empty, r)).2.Records withheld
        (entries ++ cs.map fun c => ⟨p.name, c⟩) scans := Records.foldl_enroll cs h p.name
    exact hcs.markScanned p.name

theorem Records.registerAll (h : r.Records withheld entries scans) (ps : List Plugin) :
    (r.registerAll ps).2.Records withheld (entries ++ ps.flatMap contributed)
      (scans ++ ps.flatMap scanned) := by
  induction ps generalizing r entries scans with
  | nil => simpa [Registry.registerAll] using h
  | cons p ps ih => simpa [Registry.registerAll] using ih (h.register p)

theorem Records.apply (h : r.Records withheld entries scans) (op : Op) :
    (r.apply op).Records (withheld ++ op.reserved?.toList)
      (entries ++ op.plugins.flatMap contributed) (scans ++ op.plugins.flatMap scanned) := by
  cases op with
  | reserve name owner =>
    simpa [Op.plugins, Op.reserved?, Registry.apply] using h.reserve name owner
  | register p => simpa [Op.plugins, Op.reserved?, Registry.apply] using h.register p
  | registerAll ps => simpa [Op.plugins, Op.reserved?, Registry.apply] using h.registerAll ps

/-- The record of a history goes on with the operations that follow. -/
theorem Records.applyAll (h : r.Records withheld entries scans) (history : List Op) :
    (r.applyAll history).Records (withheld ++ Registry.withheld history)
      (entries ++ contributions history) (scans ++ Registry.scans history) := by
  induction history generalizing r withheld entries scans with
  | nil => simpa [Registry.applyAll, Registry.withheld, contributions, Registry.scans] using h
  | cons op history ih =>
    have hsplit : Registry.withheld (op :: history) =
        op.reserved?.toList ++ Registry.withheld history := by
      unfold Registry.withheld
      cases hop : op.reserved? <;> simp [hop]
    have hstep := ih (h.apply op)
    rw [hsplit]
    simpa [contributions, Registry.scans, Registry.applyAll] using hstep

end Records

/-! ## The registry as it is looked up -/

theorem records_applyAll (history : List Op) : (empty.applyAll history).Records
    (withheld history) (contributions history) (scans history) :=
  records_empty.applyAll history

/-- What is looked up in the registry after a history is what the history says. -/
structure Recounts (r : Registry) (history : List Op) : Prop where
  /-- A name that was reserved, is private, or was contributed by no plugin has no function. -/
  refused : ∀ {n}, n ∈ withheld history ∨ ExportName.isPublic n = false ∨
      (∀ entry ∈ contributions history, entry.callable.name ≠ n) →
    r.callable? n = none ∧ r.origin? n = none
  /-- Any other name has the last function that was contributed under it, and the plugin that
  contributed it. -/
  latest : ∀ {n before entry after}, contributions history = before ++ entry :: after →
    entry.callable.name = n → (∀ later ∈ after, later.callable.name ≠ n) →
    n ∉ withheld history → ExportName.isPublic n = true →
      r.callable? n = some entry.callable ∧ r.origin? n = some entry.plugin
  /-- The names are those that have a function, -/
  mem_names : ∀ n, n ∈ r.names ↔ (r.callable? n).isSome
  /-- each listed once, -/
  nodup_names : r.names.Nodup
  /-- in the order in which they were first contributed. -/
  names : r.names = ((contributions history).map fun entry => entry.callable.name).eraseDups.filter
    fun n => Open (withheld history) n
  /-- A function is registered under its own name. -/
  own_name : ∀ {n c}, r.callable? n = some c → c.name = n
  /-- The plugins are those that were scanned, in the order of the first scans, -/
  plugins : r.plugins = (scans history).eraseDups
  /-- each listed once. -/
  nodup_plugins : r.plugins.Nodup

theorem Records.recounts {r : Registry} {history : List Op}
    (h : r.Records (withheld history) (contributions history) (scans history)) :
    r.Recounts history where
  refused {n} hn := by
    have hnone : r.entries.find? n = none := by
      rw [h.found]
      split
      · rename_i hopen
        rcases hn with hmem | hprivate | hnever
        · exact absurd hmem hopen.2
        · rw [hopen.1] at hprivate
          cases hprivate
        · refine Option.eq_none_iff_forall_ne_some.mpr fun entry hlast => ?_
          obtain ⟨hmem, hname⟩ := mem_of_last? hlast
          exact hnever entry hmem hname
      · rfl
    exact ⟨by rw [callable?, hnone, Option.map_none], by rw [origin?, hnone, Option.map_none]⟩
  latest {n before entry after} hsplit hname hafter hmem hpublic := by
    have hlater : (after.filter fun later => later.callable.name = n) = [] := by
      simpa using hafter
    have hlast : last? (contributions history) n = some entry := by
      rw [hsplit, last?, List.filter_append, List.filter_cons, if_pos (decide_eq_true hname),
        hlater, List.getLast?_concat]
    have hsome : r.entries.find? n = some entry := by
      rw [h.found, if_pos ⟨hpublic, hmem⟩, hlast]
    exact ⟨by rw [callable?, hsome, Option.map_some], by rw [origin?, hsome, Option.map_some]⟩
  mem_names n := by
    rw [callable?, Option.isSome_map]
    exact OrderedMap.mem_keys_iff
  nodup_names := r.entries.nodup
  names := h.names
  own_name {n c} hc := by
    obtain ⟨entry, hentry, rfl⟩ := Option.map_eq_some_iff.mp hc
    rw [h.found] at hentry
    split at hentry
    · exact (mem_of_last? hentry).2
    · cases hentry
  plugins := h.plugins
  nodup_plugins := h.plugins ▸ nodup_eraseDups _

/-- A plugin that cannot be scanned leaves no trace in a sweep. -/
theorem registerAll_append_error {p : Plugin} {cause : CallError}
    (h : p.contributions = .error cause) (r : Registry) (ps qs : List Plugin) :
    (r.registerAll (ps ++ p :: qs)).2 = (r.registerAll (ps ++ qs)).2 := by
  induction ps generalizing r with
  | nil =>
    show ((register p r).2.registerAll qs).2 = _
    rw [register_error h]
    rfl
  | cons p' ps ih => exact ih (register p' r).2

end Registry

/-- The registry is what its history makes it : under a name that is public and was never
reserved stands the last function contributed under it, in the order of the first
contributions, and the plugins are listed in the order of their first scans. A plugin that
cannot be scanned changes nothing, alone or in a sweep. -/
theorem registry_of_history (history : List Registry.Op) :
    (Registry.empty.applyAll history).Recounts history ∧
      ∀ (p : Plugin) (cause : CallError), p.contributions = .error cause → ∀ r : Registry,
        Registry.register p r = (.error cause, r) ∧ ∀ ps qs,
          (r.registerAll (ps ++ p :: qs)).2 = (r.registerAll (ps ++ qs)).2 :=
  ⟨(Registry.records_applyAll history).recounts, fun _ _ h r =>
    ⟨Registry.register_error h r, Registry.registerAll_append_error h r⟩⟩

/-- Two plugins contribute the same name, the second after one that cannot be scanned. Of the
other names one is reserved in the end and one is private. -/
theorem registry_of_two_plugins :
    let first : Plugin := ⟨"first", .ok [.constant "half" "" (.float 0.5), .arity "count"]⟩
    let broken : Plugin := ⟨"broken", .error (.failed "no such file")⟩
    let second : Plugin := ⟨"second", .ok [.arity "_hidden", .echo "half" ""]⟩
    let history : List Registry.Op :=
      [.register first, .registerAll [broken, second], .reserve "count" "the session"]
    let r := Registry.empty.applyAll history
    r.names = ["half"] ∧ r.plugins = ["first", "second"] ∧
      r.callable? "half" = some (.echo "half" "") ∧ r.origin? "half" = some "second" ∧
        r.callable? "count" = none ∧ r.callable? "_hidden" = none ∧
          Registry.register broken r = (.error (.failed "no such file"), r) := by
  intro first broken second history r
  obtain ⟨hr, hbroken⟩ := registry_of_history history
  have hsplit : Registry.contributions history =
      [⟨"first", .constant "half" "" (.float 0.5)⟩, ⟨"first", .arity "count"⟩,
        ⟨"second", .arity "_hidden"⟩] ++ ⟨"second", .echo "half" ""⟩ :: [] := rfl
  obtain ⟨hhalf, horigin⟩ := hr.latest hsplit rfl (by simp) (by decide) (by decide)
  refine ⟨?_, ?_, hhalf, horigin, (hr.refused (Or.inl (by decide))).1,
    (hr.refused (Or.inr (Or.inl (by decide)))).1, (hbroken broken _ rfl r).1⟩
  · rw [hr.names]
    decide
  · rw [hr.plugins]
    decide

end VizSession
