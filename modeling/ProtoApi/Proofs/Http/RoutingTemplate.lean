import ProtoApi.Annotations
import ProtoApi.Proofs.Http.PathTemplate
import ProtoApi.Proofs.Spelling.Kept

namespace ProtoApi

/-!
# Routing templates and what they are written for

A routing template is text, a variable in braces, and text again. It is taken apart at the first
opening brace and at the first closing one behind it; whatever braces are left over then stand where
one of the checks looks for them.

* `RoutingTemplate.cutAt?_eq_some_iff` — where a text is cut;
* `RoutingTemplate.Gives`, `RoutingTemplate.IsWrittenFor` — how a variable is written, and a
  template around it;
* `parameter_eq_ok_iff` — which templates are read and as what; `IsWrittenFor.render` says that a
  parameter can be written down again;
* `RoutingTemplate.ReadsTemplate`, `ReadsRouting`, `readsRouting_routing` — what becomes of a
  template, and of the annotation of a method, whose templates are read one after the other.
-/

namespace RoutingTemplate

/-! ### Cutting -/

/-- A text is cut in front of the first mark. -/
theorem cutAt?_eq_some_iff {mark : Char} {cs before after : List Char} :
    cutAt? mark cs = some (before, after) ↔ cs = before ++ mark :: after ∧ mark ∉ before := by
  have hsplit : cs.takeWhile (· ≠ mark) ++ cs.dropWhile (· ≠ mark) = cs :=
    List.takeWhile_append_dropWhile
  unfold cutAt?
  constructor
  · intro h
    split at h
    · cases h
    · next c rest hdrop =>
      obtain ⟨hbefore, rfl⟩ := Prod.mk.inj (Option.some.inj h)
      -- The characters that are not the mark have been taken, so it is the mark that stopped them.
      have hmark : c = mark := by
        have hstop := List.head?_dropWhile_not (· ≠ mark) cs
        rw [hdrop] at hstop
        simpa using hstop
      rw [hbefore, hdrop, hmark] at hsplit
      exact ⟨hsplit.symm, (PathTemplate.takeWhile_ne_eq_iff.1 hbefore).1⟩
  · rintro ⟨hcs, hmark⟩
    have hbefore : cs.takeWhile (· ≠ mark) = before :=
      PathTemplate.takeWhile_ne_eq_iff.2 ⟨hmark, Or.inr ⟨after, hcs⟩⟩
    have hafter : cs.dropWhile (· ≠ mark) = mark :: after := by
      rw [hbefore] at hsplit
      exact List.append_cancel_left (hsplit.trans hcs)
    rw [hafter, hbefore]

/-- A text is not cut if there is no mark in it. -/
theorem cutAt?_eq_none_iff {mark : Char} {cs : List Char} : cutAt? mark cs = none ↔ mark ∉ cs := by
  have hnone : cutAt? mark cs = none ↔ cs.dropWhile (· ≠ mark) = [] := by
    unfold cutAt?
    cases cs.dropWhile (· ≠ mark) with
    | nil => exact iff_of_true rfl rfl
    | cons c rest => exact iff_of_false nofun nofun
  rw [hnone, List.dropWhile_eq_nil_iff]
  constructor
  · intro h hmem
    exact of_decide_eq_true (h mark hmem) rfl
  · intro h c hc
    exact decide_eq_true fun e => h (e ▸ hc)

/-! ### What templates are written for -/

/-- That a text has no braces. -/
def Braceless (text : String) : Prop := '{' ∉ text.toList ∧ '}' ∉ text.toList

/-- What a variable gives, by the text between its braces: a name, or a name and a matcher. A name
    alone matches one piece of a path. -/
inductive Gives : (inner name matcher : String) → Prop where
  | name {name : String} (hne : name ≠ "") (hsign : '=' ∉ name.toList) : Gives name name "*"
  | matched {name matcher : String} (hne : name ≠ "") (hsign : '=' ∉ name.toList)
    (hmatcher : matcher ≠ "") : Gives (name ++ "=" ++ matcher) name matcher

/-- That a template is written for a parameter: its variable gives the name and the matcher, and
    there are no further braces. -/
structure IsWrittenFor (template : String) (p : RoutingParameter) : Prop where
  before : Braceless p.before
  after : Braceless p.after
  inner : ∃ inner, Braceless inner ∧ Gives inner p.name p.matcher ∧
    template = p.before ++ "\x7b" ++ inner ++ "\x7d" ++ p.after

/-- The name ends where the first equals sign stands. -/
theorem gives_iff {inner name matcher : String} :
    Gives inner name matcher ↔
      nameAndMatcher inner.toList = (name.toList, matcher.toList) ∧ name ≠ "" ∧ matcher ≠ "" := by
  unfold nameAndMatcher
  constructor
  · intro h
    cases h with
    | name hne hsign =>
      -- Without a sign the whole text is the name, and the matcher is the star.
      rw [cutAt?_eq_none_iff.2 hsign]
      exact ⟨rfl, hne, by decide⟩
    | matched hne hsign hmatcher =>
      have hcut : cutAt? '=' (name ++ "=" ++ matcher).toList = some (name.toList, matcher.toList) :=
        cutAt?_eq_some_iff.2 ⟨by simp, hsign⟩
      rw [hcut]
      exact ⟨rfl, hne, hmatcher⟩
  · rintro ⟨h, hne, hmatcher⟩
    cases hcut : cutAt? '=' inner.toList with
    | none =>
      rw [hcut] at h
      obtain ⟨hname, hstar⟩ := Prod.mk.inj h
      obtain rfl := String.toList_inj.1 hname
      obtain rfl : "*" = matcher := String.toList_inj.1 hstar
      exact .name hne (cutAt?_eq_none_iff.1 hcut)
    | some parts =>
      rw [hcut] at h
      obtain rfl := h
      obtain ⟨hinner, hsign⟩ := cutAt?_eq_some_iff.1 hcut
      obtain rfl : inner = name ++ "=" ++ matcher := String.toList_inj.1 (by simp [hinner])
      exact .matched hne hsign hmatcher

/-! ### What is read -/

/-- A template that is not empty is read if it is written for a parameter, and then as this
    parameter. -/
theorem parameter_eq_ok_iff {field template : String} (hne : template ≠ "") {p : RoutingParameter} :
    parameter field template = .ok p ↔ p.fieldPath = field ∧ IsWrittenFor template p := by
  have hempty : ¬ template.isEmpty = true := by simpa using hne
  unfold parameter
  rw [if_neg hempty]
  constructor
  · intro h
    split at h
    · nomatch h
    · next before rest hopen =>
      split at h
      · nomatch h
      · next inner after hclose =>
        -- The cuts say where the first braces stand. The first two checks are against further
        -- braces, the last one is against empty parts.
        obtain ⟨htemplate, hbefore⟩ := cutAt?_eq_some_iff.1 hopen
        obtain ⟨rfl, hinner⟩ := cutAt?_eq_some_iff.1 hclose
        obtain ⟨hbraces, h⟩ := ite_error_eq_ok_iff.1 h
        obtain ⟨hmore, h⟩ := ite_error_eq_ok_iff.1 h
        obtain ⟨⟨name, matcher⟩, hparts⟩ : ∃ parts, nameAndMatcher inner = parts := ⟨_, rfl⟩
        rw [hparts] at h
        obtain ⟨hnonempty, h⟩ := ite_error_eq_ok_iff.1 h
        obtain rfl := Except.ok.inj h
        simp only [not_or] at hbraces hmore hnonempty
        refine ⟨rfl,
          ⟨by simpa using hbefore, by simpa using hbraces.1⟩, by simpa [Braceless] using hmore,
          String.ofList inner, ⟨by simpa using hbraces.2, by simpa using hinner⟩, ?_, ?_⟩
        · exact gives_iff.2
            ⟨by simpa using hparts, by simpa using hnonempty.1, by simpa using hnonempty.2⟩
        · apply String.toList_inj.1
          simp [htemplate]
  · rintro ⟨rfl, hbefore, hafter, inner, hinner, hgives, htemplate⟩
    -- Written in this way, the template is cut at the two braces that were put in.
    have hopen : cutAt? '{' template.toList
        = some (p.before.toList, inner.toList ++ '}' :: p.after.toList) :=
      cutAt?_eq_some_iff.2 ⟨by simp [htemplate], hbefore.1⟩
    have hclose : cutAt? '}' (inner.toList ++ '}' :: p.after.toList)
        = some (inner.toList, p.after.toList) :=
      cutAt?_eq_some_iff.2 ⟨rfl, hinner.2⟩
    obtain ⟨hparts, hname, hmatcher⟩ := gives_iff.1 hgives
    simp only [hopen, hclose, hparts]
    rw [if_neg (not_or.2 ⟨hbefore.2, hinner.1⟩), if_neg (not_or.2 hafter),
      if_neg (by simpa using ⟨hname, hmatcher⟩)]
    simp

-- The matcher may hold further equals signs.
example : (parameter "name" "v1/\x7bshelf=a=*\x7d/b").toOption
    = some { fieldPath := "name", name := "shelf", before := "v1/", matcher := "a=*",
             after := "/b" } := by
  decide +kernel

/-- The name and the matcher of a variable without braces have none either, so that they can be
    written down again. -/
theorem IsWrittenFor.render {template : String} {p : RoutingParameter}
    (h : IsWrittenFor template p) : IsWrittenFor (render p) p := by
  obtain ⟨hbefore, hafter, inner, hinner, hgives, -⟩ := h
  have hwritten : Braceless (p.name ++ "=" ++ p.matcher) ∧
      Gives (p.name ++ "=" ++ p.matcher) p.name p.matcher := by
    generalize p.name = name at hgives ⊢
    generalize p.matcher = matcher at hgives ⊢
    cases hgives with
    | name hne hsign =>
      refine ⟨?_, .matched hne hsign (by decide)⟩
      simpa [Braceless] using hinner
    | matched hne hsign hmatcher => exact ⟨hinner, .matched hne hsign hmatcher⟩
  refine ⟨hbefore, hafter, p.name ++ "=" ++ p.matcher, hwritten.1, hwritten.2, ?_⟩
  apply String.toList_inj.1
  simp [RoutingTemplate.render]

theorem render_ne_empty (p : RoutingParameter) : RoutingTemplate.render p ≠ "" := by
  intro h
  have hlist := congrArg String.toList h
  simp [RoutingTemplate.render] at hlist

/-! ### Templates and annotations -/

/-- How a template is read for a field. -/
structure ReadsTemplate (field template : String) (result : Except Fault RoutingParameter) :
    Prop where
  /-- The empty template sends the whole field under its own name. -/
  empty : template = "" → result = .ok { fieldPath := field, name := field, matcher := "**" }
  /-- Any other template has to be written for a parameter. -/
  succeeds : template ≠ "" → ((∃ p, result = .ok p) ↔ ∃ p, IsWrittenFor template p)
  /-- It is read as what it is written for. -/
  reads : template ≠ "" → ∀ p, result = .ok p ↔ p.fieldPath = field ∧ IsWrittenFor template p
  /-- What is read can be written down and read again. -/
  again : template ≠ "" → ∀ p, result = .ok p → parameter field (render p) = .ok p

/-- A template is read in all cases: it is empty, it has no parameter, or it has one. -/
theorem readsTemplate_parameter (field template : String) :
    ReadsTemplate field template (parameter field template) where
  empty h := by
    subst h
    rfl
  succeeds hne := by
    constructor
    · rintro ⟨p, hp⟩
      exact ⟨p, ((parameter_eq_ok_iff hne).1 hp).2⟩
    · rintro ⟨p, hbefore, hafter, hinner⟩
      -- Which field the parameter is for is not written in the template.
      exact ⟨{ p with fieldPath := field },
        (parameter_eq_ok_iff hne).2 ⟨rfl, hbefore, hafter, hinner⟩⟩
  reads hne _ := parameter_eq_ok_iff hne
  again hne p hp := by
    obtain ⟨hfield, hwritten⟩ := (parameter_eq_ok_iff hne).1 hp
    exact (parameter_eq_ok_iff (render_ne_empty p)).2 ⟨hfield, hwritten.render⟩

end RoutingTemplate

/-- The parameters that a method is annotated with, a field and a template each, as far as they can
    be decoded. -/
def annotatedRouting? (options : Option Options) :
    Option (Except AnnotationError (List (String × String))) :=
  decodeExtension? routingRuleDecoder options "google.api.routing"

/-- How the routing of a method is read from its options. -/
structure ReadsRouting (options : Option Options)
    (result : Except AnnotationError (List RoutingParameter)) : Prop where
  absent : annotatedRouting? options = none → result = .ok []
  malformed : ∀ e, annotatedRouting? options = some (.error e) → result = .error e
  /-- All templates of an annotation have to be read, and each gives one parameter, in order. -/
  succeeds : ∀ given, annotatedRouting? options = some (.ok given) → ∀ ps, result = .ok ps ↔
    List.Forall₂ (fun d p => RoutingTemplate.parameter d.1 d.2 = .ok p) given ps
  /-- Otherwise the first template that is not read is reported with its fault. -/
  fails : ∀ given, annotatedRouting? options = some (.ok given) → ∀ e, result = .error e ↔
    ∃ before field template after fault, given = before ++ (field, template) :: after ∧
      (∀ d ∈ before, ∃ p, RoutingTemplate.parameter d.1 d.2 = .ok p) ∧
      RoutingTemplate.parameter field template = .error fault ∧ .routingTemplate template fault = e

/-- The parameter of a field and a template, with the fault told together with the template. -/
def routingParameter (d : String × String) : Except AnnotationError RoutingParameter :=
  (RoutingTemplate.parameter d.1 d.2).mapError (.routingTemplate d.2)

/-- The routing of an annotation is that of its parameters. -/
theorem routing_of_annotated {options : Option Options} {given : List (String × String)}
    (h : annotatedRouting? options = some (.ok given)) :
    routing options = given.mapM routingParameter := by
  unfold annotatedRouting? at h
  unfold routing
  rw [h]
  rfl

/-- Templates are read if they are written with one variable and without further braces, and the
    routing of a method is read if all of its templates are. -/
theorem readsRouting_routing :
    (∀ field template,
      RoutingTemplate.ReadsTemplate field template (RoutingTemplate.parameter field template)) ∧
      ∀ options, ReadsRouting options (routing options) := by
  refine ⟨RoutingTemplate.readsTemplate_parameter, fun options => ?_⟩
  exact {
    absent := fun h => by
      unfold annotatedRouting? at h
      unfold routing
      rw [h]
    malformed := fun e h => by
      unfold annotatedRouting? at h
      unfold routing
      rw [h]
    succeeds := fun given h ps => by
      rw [routing_of_annotated h, Decoder.mapM_eq_ok_iff]
      simp only [routingParameter, mapError_eq_ok_iff]
    -- The first fault decides; a parameter is a pair here and two values in the statement.
    fails := fun given h e => by
      rw [routing_of_annotated h, mapM_eq_error_iff]
      simp only [routingParameter, mapError_eq_ok_iff, mapError_eq_error_iff]
      constructor
      · rintro ⟨before, ⟨field, template⟩, after, rfl, hbefore, fault, hfault, rfl⟩
        exact ⟨before, field, template, after, fault, rfl, hbefore, hfault, rfl⟩
      · rintro ⟨before, field, template, after, fault, rfl, hbefore, hfault, rfl⟩
        exact ⟨before, (field, template), after, rfl, hbefore, fault, hfault, rfl⟩ }

end ProtoApi
