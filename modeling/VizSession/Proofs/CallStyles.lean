import VizSession.Proofs.Providers
import Mathlib.Data.List.Basic

/-!
# Arguments by position and by keyword

An argument of a built-in function can be given by its position, or as a keyword under the name
of the parameter at that position (`Args.spelledOut`). Either way binding the arguments to the
parameters gives the same (`Builtin.bind_spelledOut`) : each parameter gets the same argument
(`Args.lookup?_spelledOut`), and the keywords that are no parameters are left over in the same
order (`Args.without_spelledOut`). As a built-in function sees nothing else of its arguments,
the two calls are one, whatever they answer and wherever they fail
(`positional_eq_keyword`).
-/

namespace VizSession

/-! ## Names paired with values -/

theorem map_fst_zip_eq_take {α β : Type} (names : List α) (values : List β) :
    (names.zip values).map Prod.fst = names.take values.length := by
  induction names generalizing values with
  | nil => simp
  | cons name names ih =>
    cases values with
    | nil => rfl
    | cons v values => exact congrArg (name :: ·) (ih values)

/-- A name is paired with the value at its own position. -/
theorem mem_zip_iff_getElem? {α β : Type} {names : List α} (hnames : names.Nodup)
    {values : List β} {i : Nat} {name : α} (hi : names[i]? = some name) {v : β} :
    (name, v) ∈ names.zip values ↔ values[i]? = some v := by
  rw [List.mem_iff_getElem?]
  simp only [List.getElem?_zip_eq_some]
  constructor
  · rintro ⟨j, hj, hv⟩
    obtain ⟨hlt, -⟩ := List.getElem?_eq_some_iff.mp hi
    obtain rfl := (List.getElem?_inj hlt hnames).mp (hi.trans hj.symm)
    exact hv
  · intro hv
    exact ⟨i, hi, hv⟩

/-! ## Spelling out -/

namespace Args

/-- The arguments as keywords : those given by position follow the other keywords, under the
names of the parameters. -/
def spelledOut (params : List String) (args : Args) : Args :=
  ⟨[], args.keywords.insertMany (params.zip args.positional)⟩

/-- No argument is given twice : what is given by position is no keyword. -/
def Unambiguous (params : List String) (args : Args) : Prop :=
  ∀ p ∈ params.take args.positional.length, args.keywords.find? p = .none

section SpelledOut

variable {params : List String} {args : Args}

/-- The keywords stay as they are, and the other arguments follow them. -/
theorem entries_spelledOut (hparams : params.Nodup) (hargs : args.Unambiguous params) :
    (args.spelledOut params).keywords.entries =
      args.keywords.entries ++ params.zip args.positional := by
  refine OrderedMap.entries_insertMany_of_nodup ?_
  rw [map_fst_zip_eq_take, List.nodup_append]
  refine ⟨args.keywords.nodup, hparams.sublist (List.take_sublist ..), ?_⟩
  rintro k hk p hp rfl
  rw [OrderedMap.mem_keys_iff, hargs k hp] at hk
  cases hk

/-- A parameter has the same argument when the arguments are spelled out. -/
theorem lookup?_spelledOut (hparams : params.Nodup) (hargs : args.Unambiguous params) {i : Nat}
    {name : String} (hi : params[i]? = some name) :
    (args.spelledOut params).lookup? name i = args.lookup? name i := by
  have hspelled (v : Value) : (args.spelledOut params).keywords.find? name = some v ↔
      args.keywords.find? name = some v ∨ args.positional[i]? = some v := by
    rw [OrderedMap.find?_eq_some_iff, entries_spelledOut hparams hargs, List.mem_append,
      ← OrderedMap.find?_eq_some_iff, mem_zip_iff_getElem? hparams hi]
  cases hkeyword : args.keywords.find? name with
  | some v =>
    rw [lookup?_of_keyword i hkeyword, lookup?_of_keyword i ((hspelled v).mpr (Or.inl hkeyword))]
  | none =>
    rw [lookup?_of_position i hkeyword]
    cases hposition : args.positional[i]? with
    | some v => exact lookup?_of_keyword i ((hspelled v).mpr (Or.inr hposition))
    | none =>
      refine lookup?_of_position i (Option.eq_none_iff_forall_ne_some.mpr fun v hv => ?_)
      rw [hspelled, hkeyword, hposition] at hv
      rcases hv with hv | hv <;> cases hv

/-- What is left over when the parameters are taken out is the same. -/
theorem without_spelledOut (hparams : params.Nodup) (hargs : args.Unambiguous params) :
    (args.spelledOut params).keywords.without params = args.keywords.without params := by
  have hgone : (params.zip args.positional).filter (fun e => !params.contains e.1) = [] := by
    refine List.filter_eq_nil_iff.mpr fun e he => ?_
    have hmem : e.1 ∈ params := (List.of_mem_zip he).1
    simp [hmem]
  refine OrderedMap.ext ?_
  show (args.spelledOut params).keywords.entries.filter (fun e => !params.contains e.1) =
    args.keywords.entries.filter fun e => !params.contains e.1
  rw [entries_spelledOut hparams hargs, List.filter_append, hgone, List.append_nil]

end SpelledOut

end Args

/-- Nothing is taken out of properties that have none of the names. -/
theorem Properties.without_eq_self {ps : Properties} {names : List String}
    (h : ∀ n ∈ names, ps.find? n = none) : ps.without names = ps := by
  refine OrderedMap.ext (List.filter_eq_self.mpr fun e he => ?_)
  have hkey : (ps.find? e.1).isSome := OrderedMap.mem_keys_iff.mp (List.mem_map_of_mem he)
  have hname : e.1 ∉ names := fun hmem => by
    rw [h _ hmem] at hkey
    cases hkey
  simpa using hname

/-! ## Binding -/

namespace Builtin

/-- No function has two parameters of one name. -/
theorem nodup_params (b : Builtin) : b.params.Nodup := by cases b <;> decide

theorem bind_spelledOut {b : Builtin} (args : Args) (hargs : args.Unambiguous b.params) :
    b.bind (args.spelledOut b.params) = b.bind args := by
  have hgiven : (b.params.zipIdx.filterMap fun p =>
      ((args.spelledOut b.params).lookup? p.1 p.2).map fun v => (p.1, v)) =
        b.params.zipIdx.filterMap fun p => (args.lookup? p.1 p.2).map fun v => (p.1, v) :=
    List.filterMap_congr fun p hp => by
      rw [Args.lookup?_spelledOut b.nodup_params hargs (List.mem_zipIdx_iff_getElem?.mp hp)]
  unfold bind
  rw [hgiven, Args.without_spelledOut b.nodup_params hargs]

end Builtin

namespace Session

/-- A built-in function does the same whether its arguments are given by position or as
keywords after the others : it gives the same answer, or fails in the same way, and leaves the
same session behind. This holds of every session when the function is called directly, and
of calls by name however the session was started and whatever was done since. Keywords that are
no parameters, which some functions take as the properties of an object, come through as they
were given. -/
theorem positional_eq_keyword {e : Engine} {start : Session} (hstart : Starts e start)
    (ops : List Op) (b : Builtin) (values : List Value) (keywords : Properties)
    (hkeywords : ∀ p ∈ b.params.take values.length, keywords.find? p = none) :
    let byPosition : Args := ⟨values, keywords⟩
    let byKeyword : Args := ⟨[], keywords.insertMany (b.params.zip values)⟩
    invoke b.name byPosition (start.run ops) = invoke b.name byKeyword (start.run ops) ∧
      (∀ s : Session, dispatch b.name byPosition s = dispatch b.name byKeyword s) ∧
      ((∀ p ∈ b.params, keywords.find? p = none) →
        (b.bind byPosition).rest = keywords ∧ (b.bind byKeyword).rest = keywords) := by
  intro byPosition byKeyword
  have hbind : b.bind byKeyword = b.bind byPosition :=
    Builtin.bind_spelledOut byPosition hkeywords
  have hs : (start.run ops).Partitioned := partitioned_run_of_starts hstart ops
  refine ⟨?_, fun s => ?_, fun hfree => ?_⟩
  · rw [hs.invoke_builtin, hs.invoke_builtin, hbind]
  · unfold dispatch
    rw [if_neg b.name_ne_forwarding, if_neg b.name_ne_forwarding, callBuiltin_name,
      callBuiltin_name, hbind]
  · rw [hbind]
    exact ⟨Properties.without_eq_self hfree, Properties.without_eq_self hfree⟩

/-- A cone is created by group and definition, with a property and a name of its own. Given by
position or as keywords, the two arguments make the same cone. -/
theorem positional_eq_keyword_named_cone :
    let start := new "" "" .new .default
    let values : List Value := [.text "sources", .text "ConeSource"]
    let keywords : Properties :=
      OrderedMap.ofList [("Height", .float 3.0), ("registrationName", .text "Spire")]
    let byKeyword : Args :=
      ⟨[], OrderedMap.ofList [("Height", .float 3.0), ("registrationName", .text "Spire"),
        ("group", .text "sources"), ("xml_name", .text "ConeSource")]⟩
    Starts .new start ∧
      (∀ p ∈ Builtin.create.params.take values.length, keywords.find? p = none) ∧
      (invoke "create" ⟨values, keywords⟩ (start.run [.connect])).1.toOption.bind Value.asProxy =
        some ⟨1, ⟨1⟩, .sources, "ConeSource"⟩ ∧
      invoke "create" ⟨values, keywords⟩ (start.run [.connect]) =
        invoke "create" byKeyword (start.run [.connect]) := by
  intro start values keywords byKeyword
  have hstart : Starts .new start := ⟨"", "", .default, Or.inl rfl⟩
  have hkeywords : ∀ p ∈ Builtin.create.params.take values.length, keywords.find? p = none := by
    intro p hp
    rcases List.mem_cons.mp hp with rfl | hp
    · rfl
    · obtain rfl := List.mem_singleton.mp hp
      rfl
  exact ⟨hstart, hkeywords, by decide +kernel,
    (positional_eq_keyword hstart [.connect] .create values keywords hkeywords).1⟩

end Session

end VizSession
