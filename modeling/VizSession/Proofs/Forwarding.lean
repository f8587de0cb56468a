import VizSession.Proofs.CallStyles

/-!
# Forwarded calls

The forwarding function calls another function by name, and the call is the one that names the
function directly : the target comes first among the arguments, or under the keyword `name`
wherever that stands, and what is left when it is taken out is what the target gets
(`Session.forwarded_positional`, `Session.forwarded_keyword`). As the target is another function
than the forwarding one, it is provided as in a direct call (`Session.invoke_of_ne`).

A call by name and what the session does under a name call each other (`Session.Invoked`,
`Session.Handled`), and nothing in that says how often. What the forwarding function does not
forward is its own name, so a call is handled twice at most (`Session.Invoked.bounded`) : it ends,
and in one way.
-/

namespace VizSession

namespace Session

variable {s : Session} {name target : String} {args : Args} {ps : List Value}
  {kw named : Properties} {v : Value} {before after : List (String × Value)} {n : Nat}
  {out : Except SessionError Value × Session}

/-! ## Taking the target out -/

theorem text_positional (h : kw.find? "name" = none) :
    Args.text ⟨.text target :: ps, kw⟩ "name" 0 = .ok target := by
  rw [Args.text, Args.lookup?_of_position 0 h]
  rfl

theorem text_keyword (h : named.find? "name" = some (.text target)) :
    Args.text ⟨ps, named⟩ "name" 0 = .ok target := by
  rw [Args.text, Args.lookup?_of_keyword 0 h]
  rfl

/-- A target that comes first is taken out, and the others move up. -/
theorem forwarded_positional (h : kw.find? "name" = none) :
    forwarded ⟨v :: ps, kw⟩ = ⟨ps, kw⟩ := by
  have hcontains : kw.contains "name" = false := by rw [OrderedMap.contains, h]; rfl
  have hwithout : kw.without ["name"] = kw :=
    Properties.without_eq_self fun n hn => List.mem_singleton.mp hn ▸ h
  simp [forwarded, hcontains, hwithout]

section Keyword

variable (hkw : kw.find? "name" = none) (hentries : kw.entries = before ++ after)
  (hnamed : named.entries = before ++ ("name", v) :: after)
include hnamed

theorem find?_of_inserted : named.find? "name" = some v :=
  OrderedMap.find?_eq_some_iff.mpr (hnamed ▸ List.mem_append_right _ List.mem_cons_self)

include hkw hentries

/-- A target that is a keyword is taken out, and the others keep their order. -/
theorem forwarded_keyword : forwarded ⟨ps, named⟩ = ⟨ps, kw⟩ := by
  have hcontains : named.contains "name" = true := by
    rw [OrderedMap.contains, find?_of_inserted hnamed]
    rfl
  have hwithout : named.without ["name"] = kw := by
    have hrest : kw.without ["name"] = kw :=
      Properties.without_eq_self fun n hn => List.mem_singleton.mp hn ▸ hkw
    refine OrderedMap.ext (Eq.trans ?_ (congrArg OrderedMap.entries hrest))
    show named.entries.filter (fun e => !(["name"].contains e.1)) =
      kw.entries.filter fun e => !(["name"].contains e.1)
    rw [hnamed, hentries, List.filter_append, List.filter_append]
    rfl
  simp [forwarded, hcontains, hwithout]

end Keyword

/-! ## Calling the target -/

/-- Only the forwarding function forwards. -/
theorem invoke_of_ne (h : target ≠ Builtin.forwarding) (args : Args) :
    invoke target args = provide callBuiltin target args := by
  have hdispatch : dispatch target args = callBuiltin target args := if_neg h
  unfold invoke provide
  rw [hdispatch]

/-- The target is called as if it were called directly, with what the forwarding function leaves
of the arguments. -/
theorem Partitioned.invoke_forwarding_of_text (hs : s.Partitioned)
    (htext : args.text "name" 0 = .ok target) (htarget : target ≠ Builtin.forwarding) :
    invoke Builtin.forwarding args s = invoke target (forwarded args) s := by
  rw [hs.invoke_forwarding, forward_eq htext htarget, invoke_of_ne htarget]

/-! ## How often a call is handled -/

/-- Neither a constructor nor a plugin provides the name, which is exported; so the session
itself is to handle it. -/
structure Handles (s : Session) (name : String) : Prop where
  exported : s.exports.contains name = true
  constructor : s.constructors.find? name = none
  callable : s.registry.callable? name = none

mutual

/-- A call by name comes out in some way, and the session itself handled a name so many times
for it. -/
inductive Invoked : Nat → String → Args → Session → Except SessionError Value × Session → Prop
  | unknown {s : Session} {name : String} {args : Args}
      (hexported : s.exports.contains name = false) :
      Invoked 0 name args s (.error (.unknownFunction name), s)
  | constructed {s : Session} {name : String} {args : Args} {d : Definition}
      (hexported : s.exports.contains name = true)
      (hconstructor : s.constructors.find? name = some d) :
      Invoked 0 name args s ((do return .proxy (← construct d args) : SessionStep Value) s)
  | contributed {s : Session} {name : String} {args : Args} {c : Callable}
      (hexported : s.exports.contains name = true)
      (hconstructor : s.constructors.find? name = none)
      (hcallable : s.registry.callable? name = some c) :
      Invoked 0 name args s ((c.run args).mapError (.call name), s)
  | handled {s : Session} {name : String} {args : Args} {n : Nat}
      {out : Except SessionError Value × Session} (h : s.Handles name)
      (hout : Handled n name args s out) : Invoked n name args s out

/-- What the session itself does under a name comes out in some way. Handling the name counts, and
so does what the call is forwarded to. -/
inductive Handled : Nat → String → Args → Session → Except SessionError Value × Session → Prop
  | builtin {s : Session} {name : String} {args : Args} (h : name ≠ Builtin.forwarding) :
      Handled 1 name args s (callBuiltin name args s)
  | unnamed {s : Session} {args : Args} {cause : CallError}
      (h : args.text "name" 0 = .error cause) :
      Handled 1 Builtin.forwarding args s (.error (.call Builtin.forwarding cause), s)
  | circular {s : Session} {args : Args} (h : args.text "name" 0 = .ok Builtin.forwarding) :
      Handled 1 Builtin.forwarding args s (.error (.call Builtin.forwarding
        (.failed "cannot invoke 'invoke' by name")), s)
  | forwarded {s : Session} {args : Args} {target : String} {n : Nat}
      {out : Except SessionError Value × Session} (h : args.text "name" 0 = .ok target)
      (htarget : target ≠ Builtin.forwarding) (hout : Invoked n target (forwarded args) s out) :
      Handled (n + 1) Builtin.forwarding args s out

end

/-! ## One outcome -/

theorem Handles.invoke_eq (h : s.Handles name) (args : Args) :
    invoke name args s = dispatch name args s := by
  simp [invoke, provide, h.exported, h.constructor, h.callable]

/-- How a call by name comes out if the session itself does not handle the name. -/
theorem invoked_zero (h : ¬s.Handles name) (args : Args) :
    Invoked 0 name args s (invoke name args s) := by
  unfold invoke provide
  cases hexported : s.exports.contains name with
  | false => exact .unknown hexported
  | true =>
    cases hconstructor : s.constructors.find? name with
    | some d => exact .constructed hexported hconstructor
    | none =>
      cases hcallable : s.registry.callable? name with
      | some c => exact .contributed hexported hconstructor hcallable
      | none => exact absurd ⟨hexported, hconstructor, hcallable⟩ h

/-- A call by name comes out if what the session does under the name does. -/
theorem exists_invoked_of_handled
    (h : s.Handles name → ∃ n, Handled n name args s (dispatch name args s)) :
    ∃ n, Invoked n name args s (invoke name args s) := by
  by_cases hs : s.Handles name
  · obtain ⟨n, hn⟩ := h hs
    rw [hs.invoke_eq]
    exact ⟨n, .handled hs hn⟩
  · exact ⟨0, invoked_zero hs args⟩

theorem exists_invoked_of_ne (h : name ≠ Builtin.forwarding) (args : Args) (s : Session) :
    ∃ n, Invoked n name args s (invoke name args s) := by
  refine exists_invoked_of_handled fun _ => ⟨1, ?_⟩
  rw [dispatch, if_neg h]
  exact .builtin h

/-- Every call by name comes out, as the session says. -/
theorem exists_invoked (name : String) (args : Args) (s : Session) :
    ∃ n, Invoked n name args s (invoke name args s) := by
  by_cases hname : name = Builtin.forwarding
  · subst hname
    refine exists_invoked_of_handled fun _ => ?_
    rw [dispatch, if_pos rfl]
    cases htext : args.text "name" 0 with
    | error cause =>
      rw [forward, htext]
      exact ⟨1, .unnamed htext⟩
    | ok target =>
      by_cases htarget : target = Builtin.forwarding
      · subst htarget
        rw [forward, htext]
        exact ⟨1, .circular htext⟩
      · obtain ⟨n, hn⟩ := exists_invoked_of_ne htarget (forwarded args) s
        rw [forward_eq htext htarget, ← invoke_of_ne htarget]
        exact ⟨n + 1, .forwarded htext htarget hn⟩
  · exact exists_invoked_of_ne hname args s

/-- The name of another function than the forwarding one is handled once at most. -/
theorem Handled.of_ne (h : Handled n name args s out) (hname : name ≠ Builtin.forwarding) :
    n = 1 ∧ out = dispatch name args s := by
  cases h with
  | builtin => exact ⟨rfl, by rw [dispatch, if_neg hname]⟩
  | unnamed | circular | forwarded => exact absurd rfl hname

/-- A call by name comes out as the session says, and if what the session does under the name
does so, it comes out in that way. -/
theorem Invoked.cases_handled (h : Invoked n name args s out) :
    n = 0 ∧ out = invoke name args s ∨
      Handled n name args s out ∧ invoke name args s = dispatch name args s := by
  cases h with
  | unknown hexported => exact Or.inl ⟨rfl, by simp [invoke, provide, hexported]⟩
  | constructed hexported hconstructor =>
    exact Or.inl ⟨rfl, by simp [invoke, provide, hexported, hconstructor]⟩
  | contributed hexported hconstructor hcallable =>
    exact Or.inl ⟨rfl, by simp [invoke, provide, hexported, hconstructor, hcallable]⟩
  | handled hs hout => exact Or.inr ⟨hout, hs.invoke_eq args⟩

theorem Invoked.of_ne (h : Invoked n name args s out) (hname : name ≠ Builtin.forwarding) :
    n ≤ 1 ∧ out = invoke name args s := by
  rcases h.cases_handled with ⟨rfl, hout⟩ | ⟨hhandled, heq⟩
  · exact ⟨Nat.zero_le 1, hout⟩
  · obtain ⟨rfl, hout⟩ := hhandled.of_ne hname
    exact ⟨Nat.le_refl 1, hout.trans heq.symm⟩

/-- What the session does under a name takes two handlings at most. -/
theorem Handled.bounded (h : Handled n name args s out) :
    n ≤ 2 ∧ out = dispatch name args s := by
  cases h with
  | builtin hname => exact ⟨Nat.le_succ 1, by rw [dispatch, if_neg hname]⟩
  | unnamed htext => exact ⟨Nat.le_succ 1, by rw [dispatch, if_pos rfl, forward, htext]; rfl⟩
  | circular htext => exact ⟨Nat.le_succ 1, by rw [dispatch, if_pos rfl, forward, htext]; rfl⟩
  | forwarded htext htarget hinvoked =>
    obtain ⟨hn, rfl⟩ := hinvoked.of_ne htarget
    refine ⟨Nat.succ_le_succ hn, ?_⟩
    rw [dispatch, if_pos rfl, forward_eq htext htarget, invoke_of_ne htarget]

theorem Invoked.bounded (h : Invoked n name args s out) :
    n ≤ 2 ∧ out = invoke name args s := by
  rcases h.cases_handled with ⟨rfl, hout⟩ | ⟨hhandled, heq⟩
  · exact ⟨Nat.zero_le 2, hout⟩
  · exact ⟨hhandled.bounded.1, hhandled.bounded.2.trans heq.symm⟩

/-- However a session is started, and whatever was done since, a call that is forwarded answers
what the direct call answers, and leaves the session that it leaves. The target is given by
position, before the arguments of the call, or as a keyword anywhere among the others. Calls by
name and what the session does under names may call each other as often as they like : every
call comes out, in one way, and the session handles names for it twice at most. -/
theorem forwarding_transparent {e : Engine} {start : Session} (hstart : Starts e start)
    (ops : List Op) (target : String) (htarget : target ≠ Builtin.forwarding) (ps : List Value)
    (kw : Properties) (hkw : kw.find? "name" = none) :
    invoke Builtin.forwarding ⟨.text target :: ps, kw⟩ (start.run ops) =
      invoke target ⟨ps, kw⟩ (start.run ops) ∧
    (∀ (named : Properties) before after, kw.entries = before ++ after →
      named.entries = before ++ ("name", .text target) :: after →
        invoke Builtin.forwarding ⟨ps, named⟩ (start.run ops) =
          invoke target ⟨ps, kw⟩ (start.run ops)) ∧
    ∀ name args s, (∃ n, Invoked n name args s (invoke name args s)) ∧
      ∀ n out, Invoked n name args s out → n ≤ 2 ∧ out = invoke name args s := by
  have hs : (start.run ops).Partitioned := partitioned_run_of_starts hstart ops
  refine ⟨?_, fun named before after hentries hnamed => ?_, fun name args s => ?_⟩
  · rw [hs.invoke_forwarding_of_text (text_positional hkw) htarget, forwarded_positional hkw]
  · rw [hs.invoke_forwarding_of_text (text_keyword (find?_of_inserted hnamed)) htarget,
      forwarded_keyword hkw hentries hnamed]
  · exact ⟨exists_invoked name args s, fun _ _ => Invoked.bounded⟩

/-- A filter is made by its constructor, from a sphere that is given by position and is not the
active source. The call is forwarded, with the name of the constructor before the sphere or among
the keywords. -/
theorem forwarding_transparent_shrink :
    let start := new "" "" .new .default
    let ops : List Op := [.connect, .extendNamespace [], .create .sources "SphereSource" ∅,
      .create .sources "ConeSource" ∅]
    let s := start.run ops
    let sphere : Value := .proxy ⟨1, ⟨1⟩, .sources, "SphereSource"⟩
    let kw : Properties := .ofList [("ShrinkFactor", .float 0.25), (nameKeyword, .text "Small")]
    let named : Properties := .ofList
      [("ShrinkFactor", .float 0.25), ("name", .text "Shrink"), (nameKeyword, .text "Small")]
    Starts .new start ∧ "Shrink" ≠ Builtin.forwarding ∧ kw.find? "name" = none ∧
      (invoke "Shrink" ⟨[sphere], kw⟩ s).1.toOption.bind Value.asProxy =
        some ⟨3, ⟨1⟩, .sources, "ShrinkFilter"⟩ ∧
      invoke "invoke" ⟨[.text "Shrink", sphere], kw⟩ s = invoke "Shrink" ⟨[sphere], kw⟩ s ∧
      invoke "invoke" ⟨[sphere], named⟩ s = invoke "Shrink" ⟨[sphere], kw⟩ s := by
  intro start ops s sphere kw named
  have hstart : Starts .new start := ⟨"", "", .default, Or.inl rfl⟩
  have htarget : "Shrink" ≠ Builtin.forwarding := by decide
  have hforwards := forwarding_transparent hstart ops "Shrink" htarget [sphere] kw rfl
  exact ⟨hstart, htarget, rfl, by decide +kernel, hforwards.1,
    hforwards.2.1 named [("ShrinkFactor", .float 0.25)] [(nameKeyword, .text "Small")] rfl rfl⟩

end Session

end VizSession
