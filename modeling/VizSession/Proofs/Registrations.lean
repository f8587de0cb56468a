import VizSession.Proofs.RegistryHistory

/-!
# What registrations report

The report of a registration is the difference of two registries (`Registry.Tells`). It is taken
while the functions of the plugin are enrolled one at a time, and the registry changes meanwhile; all
the same the report is about the registry from before. A name that the plugin contributes twice is
taken over once, because the second time the plugin has it already.

`Registry.Tallied` is the invariant of the loop : the functions so far are written into the
registry from before, in their order. A sweep adds up the reports of its plugins
(`registerAll_append`), and those that cannot be scanned appear in it as failed and change nothing
else (`registerAll_eq`).
-/

namespace VizSession

/-! ## Writing many entries -/

/-- What is not among the new ones stands where it stood. -/
theorem idxOf?_append_of_not_mem {α : Type} [BEq α] [LawfulBEq α] {l new : List α} {a : α}
    (h : a ∉ new) : (l ++ new).idxOf? a = l.idxOf? a := by
  have hnew : new.findIdx? (· == a) = none := List.idxOf?_eq_none_iff.mpr h
  unfold List.idxOf?
  rw [List.findIdx?_append, hnew, Option.map_none, Option.or_none]

namespace OrderedMap

variable {κ ν : Type} [DecidableEq κ]

theorem insertMany_concat (m : OrderedMap κ ν) (l : List (κ × ν)) (e : κ × ν) :
    m.insertMany (l ++ [e]) = (m.insertMany l).insert e.1 e.2 :=
  List.foldl_concat ..

/-- New keys go last, in the order in which they were first written. -/
theorem keys_insertMany (m : OrderedMap κ ν) (l : List (κ × ν)) :
    (m.insertMany l).keys = m.keys ++ (l.map Prod.fst).eraseDups.filter fun k => k ∉ m.keys := by
  rw [← foldl_append_new]
  induction l generalizing m with
  | nil => rfl
  | cons e l ih =>
    rw [List.map_cons, List.foldl_cons, ← keys_insert m e.1 e.2]
    exact ih (m.insert e.1 e.2)

/-- What was written last under a key is found. -/
theorem find?_insertMany (m : OrderedMap κ ν) (l : List (κ × ν)) (k : κ) :
    (m.insertMany l).find? k =
      ((l.filter fun e => e.1 = k).getLast?.map Prod.snd).or (m.find? k) := by
  induction l using List.reverseRecOn with
  | nil => rfl
  | append_singleton l e ih =>
    rw [insertMany_concat, find?_insert, ih, List.filter_append]
    by_cases hk : e.1 = k
    · simp [hk]
    · simp [hk]

end OrderedMap

theorem SweepReport.append_assoc (a b c : SweepReport) : a ++ b ++ c = a ++ (b ++ c) := by
  have happend : ∀ a b : SweepReport, a ++ b = ⟨a.names ++ b.names, a.rebound ++ b.rebound,
      a.rejected ++ b.rejected, a.failed ++ b.failed⟩ := fun _ _ => rfl
  simp only [happend, List.append_assoc]

namespace Registry

variable {r r' : Registry} {plugin : String} {cs : List Callable} {report : Registration}

/-! ## One function -/

/-- The entry of a report that refuses a function, if its name is public and reserved. -/
def refusal? (r : Registry) (c : Callable) : Option (String × String) :=
  if ExportName.isPublic c.name then
    (r.owner? c.name).map fun owner => (c.name, s!"provided by {owner}")
  else none

/-- The functions that the registry takes. -/
def takes (r : Registry) (cs : List Callable) : List Callable :=
  cs.filter fun c => Open r.reserved.keys c.name

theorem takes_concat (r : Registry) (cs : List Callable) (c : Callable) :
    r.takes (cs ++ [c]) =
      if Open r.reserved.keys c.name then r.takes cs ++ [c] else r.takes cs := by
  unfold takes
  rw [List.filter_append]
  by_cases hopen : Open r.reserved.keys c.name
  · simp [hopen]
  · simp [hopen]

theorem open_iff {n : String} :
    Open r.reserved.keys n ↔ ExportName.isPublic n = true ∧ r.owner? n = none := by
  unfold Open owner?
  rw [OrderedMap.mem_keys_iff, Option.not_isSome_iff_eq_none]

/-! ## All functions of a plugin -/

/-- So far the functions were written into the registry, and the report is about that. -/
structure Tallied (r : Registry) (plugin : String) (cs : List Callable) (report : Registration)
    (r' : Registry) : Prop where
  names : report.names = ((r.takes cs).map Callable.name).eraseDups
  rebound : report.rebound = report.names.filterMap (r.rebinding? plugin)
  rejected : report.rejected = cs.filterMap r.refusal?
  registry : r' = { r with
    entries := r.entries.insertMany ((r.takes cs).map fun c => (c.name, ⟨plugin, c⟩)) }

theorem tallied_nil (r : Registry) (plugin : String) : r.Tallied plugin [] .empty r where
  names := rfl
  rebound := rfl
  rejected := rfl
  registry := rfl

theorem Tallied.mem_names_iff (h : r.Tallied plugin cs report r') {n : String} :
    n ∈ report.names ↔ Open r.reserved.keys n ∧ ∃ c ∈ cs, c.name = n := by
  rw [h.names, List.mem_eraseDups]
  unfold takes
  simp only [List.mem_map, List.mem_filter, decide_eq_true_eq]
  constructor
  · rintro ⟨c, ⟨hc, hopen⟩, rfl⟩
    exact ⟨hopen, c, hc, rfl⟩
  · rintro ⟨hopen, c, hc, rfl⟩
    exact ⟨c, ⟨hc, hopen⟩, rfl⟩

/-- Under a name that the plugin took stands the last of its functions of that name. -/
theorem Tallied.find?_of_mem (h : r.Tallied plugin cs report r') {n : String}
    (hn : n ∈ report.names) : ∃ c, (cs.filter fun c => c.name = n).getLast? = some c ∧
      r'.entries.find? n = some ⟨plugin, c⟩ := by
  obtain ⟨hopen, c₀, hc₀, hname⟩ := h.mem_names_iff.mp hn
  have hsome : (cs.filter fun c => c.name = n).getLast?.isSome := by
    rw [List.getLast?_isSome]
    exact List.ne_nil_of_mem (List.mem_filter.mpr ⟨hc₀, decide_eq_true hname⟩)
  obtain ⟨c, hlast⟩ := Option.isSome_iff_exists.mp hsome
  have hsame : (r.takes cs).filter (fun c => c.name = n) = cs.filter fun c => c.name = n := by
    unfold takes
    rw [List.filter_filter]
    refine List.filter_congr fun c _ => ?_
    by_cases hc : c.name = n
    · simp [hc, hopen]
    · simp [hc]
  refine ⟨c, hlast, ?_⟩
  rw [h.registry]
  dsimp only
  rw [OrderedMap.find?_insertMany, List.filter_map, List.getLast?_map, Option.map_map]
  simp only [Function.comp_def, hsame, hlast, Option.map_some, Option.some_or]

theorem Tallied.find?_of_not_mem (h : r.Tallied plugin cs report r') {n : String}
    (hn : n ∉ report.names) : r'.entries.find? n = r.entries.find? n := by
  rw [h.names, List.mem_eraseDups] at hn
  rw [h.registry]
  exact OrderedMap.find?_insertMany_of_not_mem (by simpa [Function.comp_def] using hn)

/-- A name is taken over from another plugin once, when it is first taken. -/
theorem Tallied.rebinding? (h : r.Tallied plugin cs report r') (n : String) :
    r'.rebinding? plugin n = if n ∈ report.names then none else r.rebinding? plugin n := by
  unfold Registry.rebinding? origin?
  by_cases hn : n ∈ report.names
  · obtain ⟨c, -, hfind⟩ := h.find?_of_mem hn
    rw [hfind, if_pos hn]
    simp
  · rw [h.find?_of_not_mem hn, if_neg hn]

/-- One more function is refused as it is private, refused as its name is reserved, or taken; the
tally goes on in each case. Only a name that is taken for the first time can be taken over from
another plugin. -/
theorem Tallied.enroll (h : r.Tallied plugin cs report r') (c : Callable) :
    r.Tallied plugin (cs ++ [c]) (enroll plugin (report, r') c).1
      (enroll plugin (report, r') c).2 := by
  have howner' : r'.owner? c.name = r.owner? c.name := by
    rw [h.registry]
    rfl
  rcases enroll_cases plugin report r' c with ⟨hpublic, henroll⟩ |
    ⟨owner, hpublic, howner, henroll⟩ | ⟨hpublic, howner, henroll⟩
  · have hclosed : r.takes (cs ++ [c]) = r.takes cs := by
      rw [takes_concat, if_neg fun hopen => by simp [hpublic, open_iff] at hopen]
    rw [henroll]
    refine ⟨?_, h.rebound, ?_, ?_⟩
    · rw [hclosed, h.names]
    · simp [h.rejected, refusal?, hpublic]
    · rw [hclosed, ← h.registry]
  · rw [howner'] at howner
    have hclosed : r.takes (cs ++ [c]) = r.takes cs := by
      rw [takes_concat, if_neg fun hopen => by simp [howner, open_iff] at hopen]
    rw [henroll]
    refine ⟨?_, h.rebound, ?_, ?_⟩
    · rw [hclosed, h.names]
    · simp [h.rejected, refusal?, hpublic, howner]
    · rw [hclosed, ← h.registry]
  · rw [howner'] at howner
    have hopen : r.takes (cs ++ [c]) = r.takes cs ++ [c] := by
      rw [takes_concat, if_pos (open_iff.mpr ⟨hpublic, howner⟩)]
    rw [henroll, h.rebinding?]
    refine ⟨?_, ?_, ?_, ?_⟩
    · dsimp only
      rw [hopen, List.map_append, List.map_singleton, eraseDups_concat, h.names]
      simp only [List.mem_eraseDups]
    · dsimp only
      rw [h.rebound]
      split
      · simp
      · cases hnew : r.rebinding? plugin c.name <;> simp [hnew]
    · simp [h.rejected, refusal?, hpublic, howner]
    · rw [hopen, List.map_append, List.map_singleton, OrderedMap.insertMany_concat, h.registry]

theorem tallied_foldl (r : Registry) (plugin : String) (cs : List Callable) :
    r.Tallied plugin cs (cs.foldl (enroll plugin) (.empty, r)).1
      (cs.foldl (enroll plugin) (.empty, r)).2 := by
  induction cs using List.reverseRecOn with
  | nil => exact tallied_nil r plugin
  | append_singleton cs c ih =>
    rw [List.foldl_concat]
    exact ih.enroll c

/-! ## One plugin -/

/-- The report of the registration of a plugin tells what it changed in the registry. -/
structure Tells (r : Registry) (plugin : String) (cs : List Callable) (report : Registration)
    (r' : Registry) : Prop where
  /-- The names taken are those that are public and not reserved, in the order of the first
  contributions, each once. -/
  names : report.names =
    ((cs.map Callable.name).filter fun n => Open r.reserved.keys n).eraseDups
  nodup : report.names.Nodup
  /-- A function whose name is public and reserved is refused, every time it is contributed. -/
  rejected : report.rejected = cs.filterMap r.refusal?
  /-- A name is taken over if another plugin had it before, once and from that plugin. -/
  rebound : report.rebound = report.names.filterMap (r.rebinding? plugin)
  /-- A name that was taken has the last function that was contributed under it. -/
  taken : ∀ n ∈ report.names, r'.origin? n = some plugin ∧
    r'.callable? n = (cs.filter fun c => c.name = n).getLast?
  /-- The new names come last, in the order of the report; so a name that was there keeps its
  place. -/
  order : r'.names = r.names ++ report.names.filter fun n => n ∉ r.names
  /-- A name that was not taken has what it had, in its place. -/
  kept : ∀ n, n ∉ report.names → r'.callable? n = r.callable? n ∧ r'.origin? n = r.origin? n ∧
    r'.names.idxOf? n = r.names.idxOf? n
  /-- Nothing is reserved. -/
  reserved : r'.reserved = r.reserved
  /-- The plugin was scanned. -/
  plugins : r'.plugins = if plugin ∈ r.plugins then r.plugins else r.plugins ++ [plugin]

theorem entries_markScanned (r : Registry) (plugin : String) :
    (r.markScanned plugin).entries = r.entries ∧ (r.markScanned plugin).reserved = r.reserved := by
  unfold markScanned
  split
  · exact ⟨rfl, rfl⟩
  · exact ⟨rfl, rfl⟩

theorem Tallied.tells (h : r.Tallied plugin cs report r') :
    r.Tells plugin cs report (r'.markScanned plugin) := by
  obtain ⟨hentries, hreserved⟩ := r'.entries_markScanned plugin
  have hnames : report.names =
      ((cs.map Callable.name).filter fun n => Open r.reserved.keys n).eraseDups := by
    rw [h.names, takes, List.filter_map]
    rfl
  have horder : (r'.markScanned plugin).names =
      r.names ++ report.names.filter fun n => n ∉ r.names := by
    unfold Registry.names
    rw [hentries, h.registry, h.names, OrderedMap.keys_insertMany, List.map_map]
    rfl
  constructor
  case names => exact hnames
  case nodup =>
    rw [hnames]
    exact nodup_eraseDups _
  case rejected => exact h.rejected
  case rebound => exact h.rebound
  case taken =>
    intro n hn
    obtain ⟨c, hlast, hfind⟩ := h.find?_of_mem hn
    unfold origin? callable?
    rw [hentries, hfind, hlast]
    exact ⟨rfl, rfl⟩
  case order => exact horder
  case kept =>
    intro n hn
    unfold origin? callable?
    rw [hentries, h.find?_of_not_mem hn, horder]
    exact ⟨rfl, rfl, idxOf?_append_of_not_mem fun hnew => hn (List.mem_filter.mp hnew).1⟩
  case reserved =>
    rw [hreserved, h.registry]
  case plugins =>
    rw [h.registry]
    unfold markScanned
    split
    · rfl
    · rfl

theorem register_tells {p : Plugin} (hp : p.contributions = .ok cs) (r : Registry) :
    ∃ report r', register p r = (.ok report, r') ∧ r.Tells p.name cs report r' := by
  refine ⟨_, _, ?_, (tallied_foldl r p.name cs).tells⟩
  unfold register
  rw [hp]

/-! ## Many plugins -/

/-- The entry of a report for a plugin that cannot be scanned. -/
def failure? (p : Plugin) : Option (String × CallError) :=
  match p.contributions with
  | .ok _ => none
  | .error cause => some (p.name, cause)

/-- Whether a plugin can be scanned. -/
def scannable (p : Plugin) : Bool := p.contributions.isOk

/-- A sweep is one over the plugins that can be scanned; the others are reported as failed. -/
theorem registerAll_eq (r : Registry) (ps : List Plugin) : r.registerAll ps =
    ({ (r.registerAll (ps.filter scannable)).1 with failed := ps.filterMap failure? },
      (r.registerAll (ps.filter scannable)).2) := by
  induction ps generalizing r with
  | nil => rfl
  | cons p ps ih =>
    cases hp : p.contributions with
    | error cause =>
      have hscan : ¬scannable p = true := by simp [scannable, hp, Except.isOk, Except.toBool]
      have hfail : failure? p = some (p.name, cause) := by simp [failure?, hp]
      rw [List.filter_cons_of_neg hscan, List.filterMap_cons_some hfail, registerAll,
        register_error hp]
      dsimp only
      rw [ih]
      rfl
    | ok cs =>
      have hscan : scannable p = true := by simp [scannable, hp, Except.isOk, Except.toBool]
      have hfail : failure? p = none := by simp [failure?, hp]
      obtain ⟨report, r', hregister, -⟩ := register_tells hp r
      rw [List.filter_cons_of_pos hscan, List.filterMap_cons_none hfail, registerAll, registerAll,
        hregister]
      dsimp only
      rw [ih]
      rfl

/-- A sweep over some plugins and then others is one sweep and then another. -/
theorem registerAll_append (r : Registry) (ps qs : List Plugin) : r.registerAll (ps ++ qs) =
    ((r.registerAll ps).1 ++ ((r.registerAll ps).2.registerAll qs).1,
      ((r.registerAll ps).2.registerAll qs).2) := by
  induction ps generalizing r with
  | nil => rfl
  | cons p ps ih =>
    rw [List.cons_append, registerAll, registerAll]
    dsimp only
    rw [ih]
    exact congrArg (·, _) (SweepReport.append_assoc ..).symm

end Registry

/-- The reports of registrations tell what changed in the registry. For one plugin that can be
scanned they tell the names that it took, those that it took over from another plugin, and the
functions that were refused. For several plugins they add up, in whatever parts the sweep is made;
a plugin that cannot be scanned is reported as failed, and all else is as if it were not there. -/
theorem registrations_tell_changes (r : Registry) :
    (∀ (p : Plugin) (cs : List Callable), p.contributions = .ok cs → ∃ report r',
      Registry.register p r = (.ok report, r') ∧ r.Tells p.name cs report r') ∧
    (∀ ps, r.registerAll ps =
      ({ (r.registerAll (ps.filter Registry.scannable)).1 with
          failed := ps.filterMap Registry.failure? },
        (r.registerAll (ps.filter Registry.scannable)).2)) ∧
    ∀ ps qs, r.registerAll (ps ++ qs) =
      ((r.registerAll ps).1 ++ ((r.registerAll ps).2.registerAll qs).1,
        ((r.registerAll ps).2.registerAll qs).2) :=
  ⟨fun _ _ hp => Registry.register_tells hp r, r.registerAll_eq, r.registerAll_append⟩

/-- The second plugin takes over a name of the first, though it contributes it twice. It is refused
a reserved name as often as it contributes it; a private name is passed over. -/
theorem registrations_tell_changes_second_plugin :
    let first : Plugin := ⟨"first", .ok [.arity "count", .constant "half" "" (.float 0.5)]⟩
    let cs : List Callable :=
      [.arity "help", .echo "half" "", .arity "_hidden", .arity "twice", .arity "help",
        .arity "half"]
    let second : Plugin := ⟨"second", .ok cs⟩
    let r := Registry.empty.applyAll [.reserve "help" "the session", .register first]
    let report : Registration := ⟨["half", "twice"], [⟨"half", "first", "second"⟩],
      [("help", "provided by the session"), ("help", "provided by the session")]⟩
    second.contributions = .ok cs ∧
      ∃ r', Registry.register second r = (.ok report, r') ∧ r.Tells "second" cs report r' ∧
        r'.names = ["count", "half", "twice"] ∧ r'.origin? "count" = some "first" ∧
        r'.callable? "half" = some (.arity "half") := by
  intro first cs second r report
  obtain ⟨found, r', hregister, htells⟩ := (registrations_tell_changes r).1 second cs rfl
  have hreport : (Registry.register second r).1 = .ok report := by decide +kernel
  rw [hregister] at hreport
  obtain rfl := Except.ok.inj hreport
  have hkept := htells.kept "count" (by decide)
  have hhalf := htells.taken "half" (by decide)
  refine ⟨rfl, r', hregister, htells, ?_, ?_, ?_⟩
  · rw [htells.order]
    decide +kernel
  · rw [hkept.2.1]
    decide +kernel
  · rw [hhalf.2]
    rfl

end VizSession
