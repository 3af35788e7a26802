import ProtoApi.Build.Targets
import ProtoApi.Build.Types
import ProtoApi.Mixin.Plan
import ProtoApi.Proofs.Mixin.Loading
import ProtoApi.Proofs.Spelling.Declarations

namespace ProtoApi

/-!
# Registering declarations that are alike

* `map_eq_of_forall₂`, `any_eq_of_forall₂`, `find?_of_forall₂` — lists whose elements are related
  one by one;
* `targets_sameResult`, `load_congr` — the files to generate, and those that mixins need;
* `declaredMessages_alike`, `declaredEnums_alike` — the declarations of files that are alike, with
  their ids;
* `populate_congr`, `registerTypes_congr` — they make the same messages and enums, or fail with the
  same error.
-/

/-! ### Lists that are related one by one -/

section Lists

variable {α β : Type} {R : α → α → Prop} {xs ys : List α}

/-- Lists are mapped to the same list if related elements are mapped to the same element. -/
theorem map_eq_of_forall₂ (h : List.Forall₂ R xs ys) {f g : α → β}
    (hfg : ∀ a b, R a b → f a = g b) : xs.map f = ys.map g := by
  have hmap : List.Forall₂ Eq (xs.map f) (ys.map g) := List.rel_map (fun a b hab => hfg a b hab) h
  rwa [List.forall₂_eq_eq_eq] at hmap

/-- A test that treats related elements alike succeeds on both lists or on none. -/
theorem any_eq_of_forall₂ (h : List.Forall₂ R xs ys) {p q : α → Bool}
    (hpq : ∀ a b, R a b → p a = q b) : xs.any p = ys.any q := by
  induction h with
  | nil => rfl
  | cons hab _ ih => rw [List.any_cons, List.any_cons, hpq _ _ hab, ih]

/-- Such a test finds related elements, or none in either list. -/
theorem find?_of_forall₂ (h : List.Forall₂ R xs ys) {p q : α → Bool}
    (hpq : ∀ a b, R a b → p a = q b) : Option.Rel R (xs.find? p) (ys.find? q) := by
  induction h with
  | nil => exact .none
  | @cons a b xs ys hab _ ih =>
    rw [List.find?_cons, List.find?_cons, hpq a b hab]
    cases q b with
    | true => exact .some hab
    | false => exact ih

theorem isSome_eq_of_rel {a? b? : Option α} (h : Option.Rel R a? b?) : a?.isSome = b?.isSome := by
  cases h <;> rfl

/-- Walking over both lists gives the same result if each step does so for related elements. -/
theorem foldl_eq_of_forall₂ (h : List.Forall₂ R xs ys) {f g : β → α → β}
    (hfg : ∀ s a b, R a b → f s a = g s b) (s : β) : xs.foldl f s = ys.foldl g s := by
  refine List.rel_foldl (P := Eq) ?_ rfl h
  rintro s _ rfl a b hab
  exact hfg s a b hab

end Lists

/-! ### What stays the same -/

/-- What is alike has the same name, so that ids and look-ups by name do not tell the two apart. -/
theorem FieldDecl.Alike.name_eq {f f' : FieldDecl} (h : f.Alike f') : f.name = f'.name := by
  obtain ⟨options?, -, rfl⟩ := h
  rfl

theorem EnumDecl.Alike.name_eq {e e' : EnumDecl} (h : e.Alike e') : e.name = e'.name := by
  obtain ⟨values, options?, -, -, rfl⟩ := h
  rfl

theorem MessageDecl.Alike.name_eq {m m' : MessageDecl} (h : m.Alike m') : m.name = m'.name := by
  cases h
  rfl

theorem MethodDecl.Alike.name_eq {m m' : MethodDecl} (h : m.Alike m') : m.name = m'.name := by
  obtain ⟨options?, -, rfl⟩ := h
  rfl

theorem ServiceDecl.Alike.name_eq {s s' : ServiceDecl} (h : s.Alike s') : s.name = s'.name := by
  obtain ⟨methods, options?, -, -, rfl⟩ := h
  rfl

theorem FileDecl.Alike.name_eq {f f' : FileDecl} (h : f.Alike f') : f.name = f'.name := by
  obtain ⟨messages, enums, services, options?, -, -, -, rfl⟩ := h
  rfl

/-! ### The files of a build -/

section Files

variable {set set' : DescriptorSet}

/-- A file is found in both sets or in none. -/
theorem findFile?_isSome_congr (h : set.Alike set') (name : String) :
    (set.findFile? name).isSome = (set'.findFile? name).isSome :=
  isSome_eq_of_rel (find?_of_forall₂ h fun f f' hf => by rw [hf.name_eq])

/-- The files to generate. -/
theorem targets_sameResult (h : set.Alike set') (requested : List String) :
    SameResult (List.Forall₂ FileDecl.Alike) (set.targets requested) (set'.targets requested) := by
  have hadd : ∀ targets targets' path, List.Forall₂ FileDecl.Alike targets targets' →
      SameResult (List.Forall₂ FileDecl.Alike) (set.addTarget targets path)
        (set'.addTarget targets' path) := by
    intro targets targets' path htargets
    have hfind : Option.Rel FileDecl.Alike (set.files.find? (·.matches path))
        (set'.files.find? (·.matches path)) := by
      refine find?_of_forall₂ h fun f f' hf => ?_
      unfold FileDecl.matches
      rw [hf.name_eq]
    -- Both sets find a file for the path or none does.
    unfold DescriptorSet.addTarget
    generalize set.files.find? (·.matches path) = f? at hfind ⊢
    generalize set'.files.find? (·.matches path) = f?' at hfind ⊢
    cases hfind with
    | none => exact .error _
    | @some f f' hf =>
      have hany : targets.any (·.name = f.name) = targets'.any (·.name = f'.name) :=
        any_eq_of_forall₂ htargets fun g g' hg => by rw [hg.name_eq, hf.name_eq]
      -- A file that is found is passed over if its name was seen, and names are the same.
      dsimp only
      rw [hany]
      by_cases hseen : targets'.any (·.name = f'.name) = true
      · rw [if_pos hseen, if_pos hseen]
        exact .ok htargets
      · rw [if_neg hseen, if_neg hseen]
        exact .ok (List.rel_append htargets (.cons hf .nil))
  -- The files found so far stay alike along the paths.
  have hfold : ∀ targets targets', List.Forall₂ FileDecl.Alike targets targets' →
      SameResult (List.Forall₂ FileDecl.Alike) (requested.foldlM set.addTarget targets)
        (requested.foldlM set'.addTarget targets') := by
    induction requested with
    | nil => exact fun _ _ htargets => .ok htargets
    | cons path requested ih =>
      intro targets targets' htargets
      rw [List.foldlM_cons, List.foldlM_cons]
      exact (hadd targets targets' path htargets).bind ih
  unfold DescriptorSet.targets
  -- Without a path every file of the set is meant.
  by_cases hempty : requested.isEmpty = true
  · rw [if_pos hempty, if_pos hempty]
    exact .ok h
  · rw [if_neg hempty, if_neg hempty]
    exact hfold [] [] .nil

namespace MixinPlan

/-- The same bundled files are loaded, and the same mixins are available. -/
theorem load_congr (h : set.Alike set') (plan : MixinPlan) (allowBundled : Bool) :
    plan.load set allowBundled = plan.load set' allowBundled := by
  unfold load
  rw [loadFiles_congr fun _ _ name _ => findFile?_isSome_congr h name]

end MixinPlan

end Files

/-! ### Declarations with their ids -/

/-- Declared messages that are alike. -/
def DeclaredMessage.Alike (d d' : DeclaredMessage) : Prop :=
  ∃ decl, d.decl.Alike decl ∧ d' = { d with decl }

/-- Declared enums that are alike. -/
def DeclaredEnum.Alike (d d' : DeclaredEnum) : Prop :=
  ∃ decl, d.decl.Alike decl ∧ d' = { d with decl }

section Declared

variable {package : String} {parent? : Option String}

/-- The ids of enums are made from their names, which stay the same. -/
theorem declareEnums_alike {enums enums' : List EnumDecl}
    (h : List.Forall₂ EnumDecl.Alike enums enums') :
    List.Forall₂ DeclaredEnum.Alike (declareEnums package parent? enums)
      (declareEnums package parent? enums') :=
  List.rel_map (fun e e' he => ⟨e', he, by rw [he.name_eq]⟩) h

/-- What is listed of the first message and then of the others is related one by one if it is so for
    each message. -/
theorem forall₂_of_pairs {β : Type} {S : β → β → Prop} {each : MessageDecl → List β}
    {all : List MessageDecl → List β} (hnil : all [] = [])
    (hcons : ∀ m rest, all (m :: rest) = each m ++ all rest)
    {pairs : List (MessageDecl × MessageDecl)}
    (h : ∀ i ∈ pairs, List.Forall₂ S (each i.1) (each i.2)) :
    List.Forall₂ S (all (pairs.map Prod.fst)) (all (pairs.map Prod.snd)) := by
  induction pairs with
  | nil =>
    rw [List.map_nil, List.map_nil, hnil]
    exact .nil
  | cons i pairs ih =>
    rw [List.forall_mem_cons] at h
    rw [List.map_cons, List.map_cons, hcons, hcons]
    exact List.rel_append h.1 (ih h.2)

/-- The step through a list of messages, for the induction on one message. -/
theorem declaredMessagesOf_alike {pairs : List (MessageDecl × MessageDecl)}
    (h : ∀ i ∈ pairs, ∀ parent?,
      List.Forall₂ DeclaredMessage.Alike (i.1.declaredMessages package parent?)
        (i.2.declaredMessages package parent?)) :
    List.Forall₂ DeclaredMessage.Alike (declaredMessagesOf package parent? (pairs.map Prod.fst))
      (declaredMessagesOf package parent? (pairs.map Prod.snd)) :=
  forall₂_of_pairs rfl (fun _ _ => rfl) fun i hi => h i hi parent?

/-- A message and those nested in it are declared with the same ids. -/
theorem MessageDecl.Alike.declaredMessages {m m' : MessageDecl} (h : m.Alike m')
    (parent? : Option String) :
    List.Forall₂ DeclaredMessage.Alike (m.declaredMessages package parent?)
      (m'.declaredMessages package parent?) := by
  induction h generalizing parent? with
  | mk hfields hnested henums hoptions ih =>
    exact .cons ⟨_, .mk hfields hnested henums hoptions, rfl⟩ (declaredMessagesOf_alike ih)

/-- The same step for the enums inside messages. -/
theorem declaredEnumsOf_alike {pairs : List (MessageDecl × MessageDecl)}
    (h : ∀ i ∈ pairs, ∀ parent?, List.Forall₂ DeclaredEnum.Alike (i.1.declaredEnums package parent?)
      (i.2.declaredEnums package parent?)) :
    List.Forall₂ DeclaredEnum.Alike (declaredEnumsOf package parent? (pairs.map Prod.fst))
      (declaredEnumsOf package parent? (pairs.map Prod.snd)) :=
  forall₂_of_pairs rfl (fun _ _ => rfl) fun i hi => h i hi parent?

/-- The enums of a message and of those nested in it are declared with the same ids. -/
theorem MessageDecl.Alike.declaredEnums {m m' : MessageDecl} (h : m.Alike m')
    (parent? : Option String) :
    List.Forall₂ DeclaredEnum.Alike (m.declaredEnums package parent?)
      (m'.declaredEnums package parent?) := by
  induction h generalizing parent? with
  | mk hfields hnested henums hoptions ih =>
    exact List.rel_append (declaredEnumsOf_alike ih) (declareEnums_alike henums)

end Declared

namespace FileDecl

variable {f f' : FileDecl}

/-- The messages of files that are alike have the same ids. -/
theorem Alike.declaredMessages (h : f.Alike f') :
    List.Forall₂ DeclaredMessage.Alike f.declaredMessages f'.declaredMessages := by
  obtain ⟨messages, enums, services, options?, hmessages, -, -, rfl⟩ := h
  obtain ⟨pairs, hold, rfl, hpairs⟩ := forall₂_iff_exists_pairs.1 hmessages
  unfold FileDecl.declaredMessages
  rw [hold]
  exact declaredMessagesOf_alike fun i hi parent? => (hpairs i hi).declaredMessages parent?

/-- The enums of files that are alike have the same ids. -/
theorem Alike.declaredEnums (h : f.Alike f') :
    List.Forall₂ DeclaredEnum.Alike f.declaredEnums f'.declaredEnums := by
  obtain ⟨messages, enums, services, options?, hmessages, henums, -, rfl⟩ := h
  obtain ⟨pairs, hold, rfl, hpairs⟩ := forall₂_iff_exists_pairs.1 hmessages
  unfold FileDecl.declaredEnums
  rw [hold]
  exact List.rel_append (declaredEnumsOf_alike fun i hi parent? =>
    (hpairs i hi).declaredEnums parent?) (declareEnums_alike henums)

end FileDecl

/-! ### The first sweep -/

section Parts

variable {m m' : MessageDecl}

/-- The messages nested in messages that are alike are alike one by one. -/
theorem MessageDecl.Alike.nested (h : m.Alike m') :
    List.Forall₂ MessageDecl.Alike m.nested m'.nested := by
  cases h with
  | mk hfields hnested henums hoptions => exact forall₂_iff_exists_pairs.2 ⟨_, rfl, rfl, hnested⟩

theorem MessageDecl.Alike.fields (h : m.Alike m') :
    List.Forall₂ FieldDecl.Alike m.fields m'.fields := by
  cases h with
  | mk hfields hnested henums hoptions => exact hfields

theorem MessageDecl.Alike.enums (h : m.Alike m') :
    List.Forall₂ EnumDecl.Alike m.enums m'.enums := by
  cases h with
  | mk hfields hnested henums hoptions => exact henums

theorem MessageDecl.Alike.oneofs_eq (h : m.Alike m') : m.oneofs = m'.oneofs := by
  cases h with
  | mk => rfl

theorem MessageDecl.Alike.options (h : m.Alike m') : Options.Alike m.options? m'.options? := by
  cases h with
  | mk hfields hnested henums hoptions => exact hoptions

/-- The mark of a map entry is read from the options under two keys, neither of which is an
    extension. -/
theorem MessageDecl.Alike.isMapEntry_eq (h : m.Alike m') : m.isMapEntry = m'.isMapEntry := by
  have hread : ∀ m : MessageDecl, m.isMapEntry = ((((m.options?.bind (·.get? "mapEntry")).or
      (m.options?.bind (·.get? "map_entry"))).bind Json.boolean?).getD false) := by
    intro m
    unfold MessageDecl.isMapEntry
    cases m.options? <;> rfl
  rw [hread m, hread m', h.options.get?_eq (by decide), h.options.get?_eq (by decide)]

end Parts

/-- A message is registered in the same way. -/
theorem DeclaredMessage.Alike.shell_eq {d d' : DeclaredMessage} (h : d.Alike d') :
    d.shell = d'.shell := by
  obtain ⟨decl, hdecl, rfl⟩ := h
  -- Members are kept by their ids, so the names of what is nested suffice.
  have hnested := map_eq_of_forall₂ hdecl.nested fun n n' hn => congrArg (childId d.id) hn.name_eq
  have henums := map_eq_of_forall₂ hdecl.enums fun e e' he => congrArg (childId d.id) he.name_eq
  unfold DeclaredMessage.shell
  rw [hdecl.name_eq, isDeprecated_congr hdecl.options, hdecl.isMapEntry_eq, hnested, henums]

/-- An enum is registered in the same way. -/
theorem DeclaredEnum.Alike.entity_eq {d d' : DeclaredEnum} (h : d.Alike d') :
    d.entity = d'.entity := by
  obtain ⟨decl, ⟨values, options?, hvalues, hoptions, rfl⟩, rfl⟩ := h
  -- Of the options of a value only the deprecation is kept.
  have hvalue : ∀ v v' : EnumValueDecl, v.Alike v' →
      ({ name := v.name, number := v.number, parent := d.id,
         deprecated := isDeprecated v.options? } : EnumValue)
        = { name := v'.name, number := v'.number, parent := d.id,
            deprecated := isDeprecated v'.options? } := by
    rintro v _ ⟨options?, hv, rfl⟩
    rw [isDeprecated_congr hv]
    rfl
  unfold DeclaredEnum.entity
  rw [map_eq_of_forall₂ hvalues hvalue, isDeprecated_congr hoptions]
  rfl

/-- The first sweep leaves the same registry. -/
theorem registerShells_congr {messages messages' : List DeclaredMessage}
    {enums enums' : List DeclaredEnum}
    (hmessages : List.Forall₂ DeclaredMessage.Alike messages messages')
    (henums : List.Forall₂ DeclaredEnum.Alike enums enums') (r : Registry) :
    registerShells r messages enums = registerShells r messages' enums' := by
  unfold registerShells
  rw [foldl_eq_of_forall₂ hmessages (fun r d d' hd => by rw [hd.shell_eq]) r]
  exact foldl_eq_of_forall₂ henums (fun r d d' hd => by rw [hd.entity_eq]) _

/-! ### The second sweep -/

/-- A field is built in the same way, or fails with the same error. -/
theorem FieldDecl.Alike.buildField_eq {f f' : FieldDecl} (h : f.Alike f') (r : Registry)
    (messageId : String) (declared : Nat) :
    buildField r messageId declared f = buildField r messageId declared f' := by
  obtain ⟨options?, hoptions, rfl⟩ := h
  have huntyped : f.untyped messageId = { f with options? }.untyped messageId := by
    unfold FieldDecl.untyped
    rw [fieldBehavior_congr hoptions, isDeprecated_congr hoptions]
    rfl
  unfold buildField
  rw [huntyped, isUuid4_congr hoptions]
  rfl

theorem buildFields_congr {fields fields' : List FieldDecl}
    (h : List.Forall₂ FieldDecl.Alike fields fields') (r : Registry) (messageId : String)
    (declared : Nat) :
    buildFields (buildField r messageId declared) fields
      = buildFields (buildField r messageId declared) fields' := by
  induction h with
  | nil => rfl
  | cons hf _ ih => rw [buildFields, buildFields, hf.buildField_eq, ih]

/-- A message is given the same fields and oneofs. -/
theorem populate_congr {d d' : DeclaredMessage} (h : d.Alike d') (ctx : Context) :
    populate ctx d = populate ctx d' := by
  obtain ⟨decl, hdecl, rfl⟩ := h
  unfold populate
  rw [hdecl.oneofs_eq, buildFields_congr hdecl.fields]

theorem populateAll_congr {messages messages' : List DeclaredMessage}
    (h : List.Forall₂ DeclaredMessage.Alike messages messages') (ctx : Context) :
    populateAll ctx messages = populateAll ctx messages' := by
  induction h generalizing ctx with
  | nil => rfl
  | @cons d d' rest rest' hd _ ih =>
    rw [populateAll, populateAll, populate_congr hd]
    simp only [ih]

/-- Both sweeps come to the same. -/
theorem registerTypes_congr {files files' : List FileDecl}
    (h : List.Forall₂ FileDecl.Alike files files') (ctx : Context) :
    registerTypes ctx files = registerTypes ctx files' := by
  have hmessages := List.rel_flatMap h fun f f' (hf : f.Alike f') => hf.declaredMessages
  have henums := List.rel_flatMap h fun f f' (hf : f.Alike f') => hf.declaredEnums
  unfold registerTypes
  rw [populateAll_congr hmessages]
  exact congrArg (fun r => populateAll { ctx with registry := r } _)
    (registerShells_congr hmessages henums ctx.registry)

end ProtoApi
