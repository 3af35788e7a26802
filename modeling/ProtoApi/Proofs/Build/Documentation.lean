import ProtoApi.Build.Comments
import ProtoApi.Proofs.Build.WellFormed
import ProtoApi.Proofs.Table

namespace ProtoApi

/-!
# What attaching comments does

* `FileDecl.comments`, `FileDecl.documented`, `FileDecl.lostComments` — the comments of a file, what
  they document, and the diagnostics for those that lead nowhere;
* `Registry.withDocumentation`, `attachComments_eq`, `foldl_attachComments_eq` — the comments of a
  file, and those of several files, as one change of the context;
* `attach_comm`, `attach_attach` — documentation of different things may be written in either order,
  and of two of one thing the later one stays;
* `DocTarget.owner` — the entity whose entry in the registry holds a documentation. Documentation of
  different owners may be written in either order (`withDocumentation_comm`);
* `message?_withDocumentation`, `enum?_withDocumentation`, `service?_withDocumentation`,
  `method?_withDocumentation` — what an entry of the registry becomes;
* `latestDocumentation`, `Message.reworded`, `EnumType.reworded` — the documentation that stays,
  where fields and oneofs have different names.
-/

/-! ### The comments of a file -/

namespace FileDecl

/-- The comments of a file that say anything, with their paths. -/
def comments (f : FileDecl) : List (List Int32 × String) :=
  (f.sourceInfo?.getD []).filterMap fun l => (l.leadingComments?.filter (· ≠ "")).map (l.path, ·)

/-- What the comments document, and how. -/
def documented (f : FileDecl) : List (DocTarget × String) :=
  f.comments.filterMap fun c =>
    match f.resolve c.1 with
    | .target t => some (t, trimComment c.2)
    | _ => none

/-- A diagnostic for each comment that leads nowhere. -/
def lostComments (f : FileDecl) : List Diagnostic :=
  f.comments.filterMap fun c =>
    if f.resolve c.1 = .unknown then some (.unknownDocumentationPath f.name c.1) else none

end FileDecl

/-- Writes some documentations, one after the other. -/
def Registry.withDocumentation (r : Registry) (docs : List (DocTarget × String)) : Registry :=
  docs.foldl (fun r d => d.1.attach r d.2) r

theorem Registry.withDocumentation_cons (r : Registry) (d : DocTarget × String)
    (docs : List (DocTarget × String)) :
    r.withDocumentation (d :: docs) = (d.1.attach r d.2).withDocumentation docs := rfl

/-- The comments of a file document what they lead to, and those that lead nowhere are reported. -/
theorem attachComments_eq (ctx : Context) (f : FileDecl) :
    attachComments ctx f = {
      registry := ctx.registry.withDocumentation f.documented
      diagnostics := ctx.diagnostics ++ f.lostComments
      uuid4Fields := ctx.uuid4Fields } := by
  -- A location has no comment, an empty one, or one that is resolved by its path.
  unfold attachComments FileDecl.documented FileDecl.lostComments FileDecl.comments
  induction f.sourceInfo?.getD [] generalizing ctx with
  | nil =>
    simp only [List.filterMap_nil, List.append_nil]
    rfl
  | cons l rest ih =>
    rw [List.foldl_cons, ih]
    unfold attachComment
    cases hl : l.leadingComments? with
    | none => simp [hl]
    | some comment =>
      by_cases hempty : comment = ""
      · simp [hl, hempty]
      · cases hr : f.resolve l.path with
        | target t =>
          simp [hl, hempty, hr, Context.mapRegistry, Registry.withDocumentation_cons]
        | ignored => simp [hl, hempty, hr]
        | unknown => simp [hl, hempty, hr, Context.report, Context.reportAll]

/-- So do the comments of several files, one file after the other. -/
theorem foldl_attachComments_eq (ctx : Context) (files : List FileDecl) :
    files.foldl attachComments ctx = {
      registry := files.foldl (fun r f => r.withDocumentation f.documented) ctx.registry
      diagnostics := ctx.diagnostics ++ files.flatMap (·.lostComments)
      uuid4Fields := ctx.uuid4Fields } := by
  induction files generalizing ctx with
  | nil => simp
  | cons f rest ih =>
    rw [List.foldl_cons, ih, attachComments_eq]
    simp

/-! ### Two changes -/

section Changes

variable {α : Type} {f g : α → α}

/-- What may be there can be changed in either order if all that may be there can. -/
theorem map_map_comm {f' g' : α → α} (h : ∀ a, g (f a) = f' (g' a)) (x : Option α) :
    (x.map f).map g = (x.map g').map f' := by
  cases x with
  | none => rfl
  | some a => exact congrArg some (h a)

/-- The first elements of two names may be changed in either order. -/
theorem modifyFirst_comm {name : α → String} (hf : ∀ a, name (f a) = name a)
    (hg : ∀ a, name (g a) = name a) {n n' : String} (h : n ≠ n') (l : List α) :
    modifyFirst (fun a => name a = n) f (modifyFirst (fun a => name a = n') g l)
      = modifyFirst (fun a => name a = n') g (modifyFirst (fun a => name a = n) f l) := by
  induction l with
  | nil => rfl
  | cons a rest ih =>
    -- The first element has the one name, the other name or neither.
    by_cases ha : name a = n
    · simp [modifyFirst, hf, ha, h]
    · by_cases ha' : name a = n' <;> simp [modifyFirst, hg, ha, ha', ih, h.symm]

/-- The first element of a name may be changed twice at once. -/
theorem modifyFirst_modifyFirst {p : α → Bool} (hf : ∀ a, p (f a) = p a) (l : List α) :
    modifyFirst p g (modifyFirst p f l) = modifyFirst p (g ∘ f) l := by
  induction l with
  | nil => rfl
  | cons a rest ih => cases ha : p a <;> simp [modifyFirst, hf, ha, ih]

/-- An image of all elements changes alike if the property does not depend on it. -/
theorem modifyFirst_map {p : α → Bool} (hp : ∀ a, p (g a) = p a) (h : ∀ a, g (f a) = f (g a))
    (l : List α) : (modifyFirst p f l).map g = modifyFirst p f (l.map g) := by
  induction l with
  | nil => rfl
  | cons a rest ih => cases ha : p a <;> simp [modifyFirst, hp, h, ha, ih]

end Changes

/-! ### Owners -/

/-- An entity with an entry in the registry. -/
inductive Owner where
  | message (id : String)
  | enum (id : String)
  | service (id : String)
  | method (id : String)
deriving DecidableEq

namespace DocTarget

/-- The entity whose entry holds the documentation. -/
def owner : DocTarget → Owner
  | message id => .message id
  | field owner _ => .message owner
  | oneOf owner _ => .message owner
  | enum id => .enum id
  | enumValue owner _ => .enum owner
  | service id => .service id
  | method id => .method id

/-- What becomes of a message. -/
def onMessage (documentation id : String) (m : Message) : DocTarget → Message
  | message other => if id = other then { m with documentation } else m
  | field owner name =>
    if id = owner then { m with
      fields := modifyFirst (·.name = name) (fun f => { f with documentation }) m.fields }
    else m
  | oneOf owner name =>
    if id = owner then { m with
      oneOfs := modifyFirst (·.name = name) (fun o => { o with documentation }) m.oneOfs }
    else m
  | _ => m

/-- What becomes of an enum. -/
def onEnum (documentation id : String) (e : EnumType) : DocTarget → EnumType
  | enum other => if id = other then { e with documentation } else e
  | enumValue owner position =>
    if id = owner then { e with
      values := e.values.modify position fun v => { v with documentation } } else e
  | _ => e

/-- What becomes of a service. -/
def onService (documentation id : String) (s : Service) : DocTarget → Service
  | service other => if id = other then { s with documentation } else s
  | _ => s

/-- What becomes of a method. -/
def onMethod (documentation id : String) (m : Method) : DocTarget → Method
  | method other => if id = other then { m with documentation } else m
  | _ => m

section Attach

variable (t : DocTarget) (r : Registry) (documentation id : String)

/-- A look-up after a documentation is written finds the entry as the documentation leaves it. There
    is one such lemma for each table. -/
theorem message?_attach :
    (t.attach r documentation).message? id = (r.message? id).map fun m =>
      t.onMessage documentation id m := by
  cases t <;>
    simp [attach, onMessage, Registry.message?, Registry.modifyMessage, Registry.modifyEnum,
    Registry.modifyService, Registry.modifyMethod, Table.get?_modify_eq_map]

/-- The entry of an enum. -/
theorem enum?_attach :
    (t.attach r documentation).enum? id = (r.enum? id).map fun e =>
      t.onEnum documentation id e := by
  cases t <;> simp [attach, onEnum, Registry.enum?, Registry.modifyMessage, Registry.modifyEnum,
    Registry.modifyService, Registry.modifyMethod, Table.get?_modify_eq_map]

/-- The entry of a service. -/
theorem service?_attach :
    (t.attach r documentation).service? id = (r.service? id).map fun s =>
      t.onService documentation id s := by
  cases t <;>
    simp [attach, onService, Registry.service?, Registry.modifyMessage, Registry.modifyEnum,
    Registry.modifyService, Registry.modifyMethod, Table.get?_modify_eq_map]

/-- The entry of a method. -/
theorem method?_attach :
    (t.attach r documentation).method? id = (r.method? id).map fun m =>
      t.onMethod documentation id m := by
  cases t <;> simp [attach, onMethod, Registry.method?, Registry.modifyMessage, Registry.modifyEnum,
    Registry.modifyService, Registry.modifyMethod, Table.get?_modify_eq_map]

variable {t id}

/-- A message changes only if it holds the documentation. -/
theorem onMessage_of_ne (h : t.owner ≠ .message id) (m : Message) :
    t.onMessage documentation id m = m := by
  cases t <;> simp_all [owner, onMessage, eq_comm]

/-- So does an enum. -/
theorem onEnum_of_ne (h : t.owner ≠ .enum id) (e : EnumType) : t.onEnum documentation id e = e := by
  cases t <;> simp_all [owner, onEnum, eq_comm]

/-- So does a service. -/
theorem onService_of_ne (h : t.owner ≠ .service id) (s : Service) :
    t.onService documentation id s = s := by
  cases t <;> simp_all [owner, onService, eq_comm]

/-- So does a method. -/
theorem onMethod_of_ne (h : t.owner ≠ .method id) (m : Method) :
    t.onMethod documentation id m = m := by
  cases t <;> simp_all [owner, onMethod, eq_comm]

end Attach

section Twice

variable {t t' : DocTarget} (h : t ≠ t') (doc doc' id : String)
include h

/-- What is written at different places of a message may be written in either order. -/
theorem onMessage_comm (m : Message) :
    t'.onMessage doc' id (t.onMessage doc id m) = t.onMessage doc id (t'.onMessage doc' id m) := by
  cases t <;> cases t' <;> simp only [onMessage]
  case message.message => split_ifs <;> simp_all
  -- Two fields, or two oneofs, of one message have different names.
  case field.field | oneOf.oneOf =>
    split_ifs <;> try rfl
    congr 1
    apply modifyFirst_comm
    · exact fun _ => rfl
    · exact fun _ => rfl
    · simp_all [eq_comm]
  all_goals split_ifs <;> rfl

/-- The values of an enum are told apart by their positions. -/
theorem onEnum_comm (e : EnumType) :
    t'.onEnum doc' id (t.onEnum doc id e) = t.onEnum doc id (t'.onEnum doc' id e) := by
  cases t <;> cases t' <;> simp only [onEnum]
  case enum.enum => split_ifs <;> simp_all
  case enumValue.enumValue =>
    split_ifs <;> try rfl
    congr 1
    exact List.modify_modify_ne _ _ _ (by simp_all)
  all_goals split_ifs <;> rfl

/-- A service has one documentation, so of two different targets at most one is this service. -/
theorem onService_comm (s : Service) :
    t'.onService doc' id (t.onService doc id s) = t.onService doc id (t'.onService doc' id s) := by
  cases t <;> cases t' <;> simp only [onService]
  split_ifs <;> simp_all

/-- The same of a method. -/
theorem onMethod_comm (m : Method) :
    t'.onMethod doc' id (t.onMethod doc id m) = t.onMethod doc id (t'.onMethod doc' id m) := by
  cases t <;> cases t' <;> simp only [onMethod]
  split_ifs <;> simp_all

end Twice

end DocTarget

namespace Registry

/-- A registry is determined by its look-ups. -/
theorem ext_lookups {r s : Registry} (messages : ∀ id, r.message? id = s.message? id)
    (enums : ∀ id, r.enum? id = s.enum? id) (services : ∀ id, r.service? id = s.service? id)
    (methods : ∀ id, r.method? id = s.method? id) : r = s := by
  have hm := Table.ext_get? messages
  have he := Table.ext_get? enums
  have hs := Table.ext_get? services
  have hc := Table.ext_get? methods
  cases r
  cases s
  cases hm
  cases he
  cases hs
  cases hc
  rfl

/-- Documentation of different things may be written in either order. -/
theorem attach_comm (r : Registry) {t t' : DocTarget} (h : t ≠ t') (doc doc' : String) :
    t'.attach (t.attach r doc) doc' = t.attach (t'.attach r doc') doc := by
  apply ext_lookups <;> intro id
  · simp only [DocTarget.message?_attach]
    exact map_map_comm (DocTarget.onMessage_comm h doc doc' id) _
  · simp only [DocTarget.enum?_attach]
    exact map_map_comm (DocTarget.onEnum_comm h doc doc' id) _
  · simp only [DocTarget.service?_attach]
    exact map_map_comm (DocTarget.onService_comm h doc doc' id) _
  · simp only [DocTarget.method?_attach]
    exact map_map_comm (DocTarget.onMethod_comm h doc doc' id) _

/-- Of two documentations of one thing the later one stays. -/
theorem attach_attach (r : Registry) (t : DocTarget) (doc doc' : String) :
    t.attach (t.attach r doc) doc' = t.attach r doc' := by
  cases t <;>
    simp only [DocTarget.attach, modifyMessage, modifyEnum, modifyService, modifyMethod,
      Table.modify_modify]
  -- A field, a oneof and a value are changed inside their owner's entry.
  case field owner name | oneOf owner name =>
    congr 2
    funext m
    rw [Function.comp, modifyFirst_modifyFirst]
    · rfl
    · exact fun _ => rfl
  case enumValue owner position =>
    congr 2
    funext e
    rw [Function.comp, List.modify_modify_eq]
    rfl
  all_goals rfl

/-- So may several documentations, if those of the one list and of the other have different
    owners. -/
theorem withDocumentation_comm (r : Registry) {docs docs' : List (DocTarget × String)}
    (h : ∀ d ∈ docs, ∀ d' ∈ docs', d.1.owner ≠ d'.1.owner) :
    (r.withDocumentation docs).withDocumentation docs'
      = (r.withDocumentation docs').withDocumentation docs := by
  -- One documentation passes all those of the other list.
  have hone : ∀ (d : DocTarget × String), (∀ d' ∈ docs', d.1.owner ≠ d'.1.owner) → ∀ r : Registry,
      (d.1.attach r d.2).withDocumentation docs' = d.1.attach (r.withDocumentation docs') d.2 := by
    clear h
    intro d hd
    induction docs' with
    | nil => exact fun _ => rfl
    | cons d' rest ih =>
      intro r
      have hne : d.1 ≠ d'.1 := fun heq => hd d' List.mem_cons_self (congrArg DocTarget.owner heq)
      rw [withDocumentation_cons, withDocumentation_cons, r.attach_comm hne]
      exact ih (fun e he => hd e (List.mem_cons_of_mem _ he)) _
  induction docs generalizing r with
  | nil => rfl
  | cons d rest ih =>
    rw [withDocumentation_cons, withDocumentation_cons,
      ih _ fun e he => h e (List.mem_cons_of_mem _ he), hone d (h d List.mem_cons_self)]

section Lookups

variable (r : Registry) (docs : List (DocTarget × String)) (id : String)

/-- What one documentation makes of an entry, several make of it one after the other. -/
theorem lookup_withDocumentation {α : Type} (look : Registry → Option α)
    (change : DocTarget × String → α → α)
    (h : ∀ d r, look (d.1.attach r d.2) = (look r).map (change d)) :
    look (r.withDocumentation docs) = (look r).map fun a =>
      docs.foldl (fun a d => change d a) a := by
  induction docs generalizing r with
  | nil => simp [withDocumentation]
  | cons d rest ih =>
    rw [withDocumentation_cons, ih, h, Option.map_map]
    rfl

/-- What the documentations make of a message, in the order in which they are written. -/
theorem message?_withDocumentation : (r.withDocumentation docs).message? id =
    (r.message? id).map fun m => docs.foldl (fun m d => d.1.onMessage d.2 id m) m :=
  lookup_withDocumentation r docs (·.message? id) (fun d m => d.1.onMessage d.2 id m)
    fun d r => d.1.message?_attach r d.2 id

/-- What they make of an enum. -/
theorem enum?_withDocumentation : (r.withDocumentation docs).enum? id =
    (r.enum? id).map fun e => docs.foldl (fun e d => d.1.onEnum d.2 id e) e :=
  lookup_withDocumentation r docs (·.enum? id) (fun d e => d.1.onEnum d.2 id e)
    fun d r => d.1.enum?_attach r d.2 id

/-- What they make of a service. -/
theorem service?_withDocumentation : (r.withDocumentation docs).service? id =
    (r.service? id).map fun s => docs.foldl (fun s d => d.1.onService d.2 id s) s :=
  lookup_withDocumentation r docs (·.service? id) (fun d s => d.1.onService d.2 id s)
    fun d r => d.1.service?_attach r d.2 id

/-- What they make of a method. -/
theorem method?_withDocumentation : (r.withDocumentation docs).method? id =
    (r.method? id).map fun m => docs.foldl (fun m d => d.1.onMethod d.2 id m) m :=
  lookup_withDocumentation r docs (·.method? id) (fun d m => d.1.onMethod d.2 id m)
    fun d r => d.1.method?_attach r d.2 id

variable {id docs}

/-- What no single documentation changes is not changed by all of them. -/
theorem withDocumentation_keeps {α : Type} (look : Registry → α)
    (h : ∀ d ∈ docs, ∀ r, look (d.1.attach r d.2) = look r) :
    look (r.withDocumentation docs) = look r := by
  induction docs generalizing r with
  | nil => rfl
  | cons d rest ih =>
    rw [withDocumentation_cons, ih _ fun e he => h e (List.mem_cons_of_mem _ he),
      h d List.mem_cons_self]

/-- A message that owns none of the documentations keeps its entry. -/
theorem message?_withDocumentation_of_ne (h : ∀ d ∈ docs, d.1.owner ≠ .message id) :
    (r.withDocumentation docs).message? id = r.message? id := by
  refine r.withDocumentation_keeps (·.message? id) fun d hd r => ?_
  rw [DocTarget.message?_attach, funext (DocTarget.onMessage_of_ne d.2 (h d hd)), Option.map_id']

/-- So does an enum. -/
theorem enum?_withDocumentation_of_ne (h : ∀ d ∈ docs, d.1.owner ≠ .enum id) :
    (r.withDocumentation docs).enum? id = r.enum? id := by
  refine r.withDocumentation_keeps (·.enum? id) fun d hd r => ?_
  rw [DocTarget.enum?_attach, funext (DocTarget.onEnum_of_ne d.2 (h d hd)), Option.map_id']

/-- So does a service. -/
theorem service?_withDocumentation_of_ne (h : ∀ d ∈ docs, d.1.owner ≠ .service id) :
    (r.withDocumentation docs).service? id = r.service? id := by
  refine r.withDocumentation_keeps (·.service? id) fun d hd r => ?_
  rw [DocTarget.service?_attach, funext (DocTarget.onService_of_ne d.2 (h d hd)), Option.map_id']

/-- So does a method. -/
theorem method?_withDocumentation_of_ne (h : ∀ d ∈ docs, d.1.owner ≠ .method id) :
    (r.withDocumentation docs).method? id = r.method? id := by
  refine r.withDocumentation_keeps (·.method? id) fun d hd r => ?_
  rw [DocTarget.method?_attach, funext (DocTarget.onMethod_of_ne d.2 (h d hd)), Option.map_id']

end Lookups

end Registry

/-! ### The documentation that stays -/

/-- The last documentation of an entity, or the one that it had before. -/
def latestDocumentation (docs : List (DocTarget × String)) (t : DocTarget) (before : String) :
    String :=
  ((docs.filter (·.1 = t)).getLast?.map (·.2)).getD before

@[simp] theorem latestDocumentation_nil (t : DocTarget) (before : String) :
    latestDocumentation [] t before = before := rfl

/-- The documentation that stays is one of those written, or nothing has been written. -/
theorem latestDocumentation_mem (docs : List (DocTarget × String)) (t : DocTarget)
    (before : String) :
    latestDocumentation docs t before = before ∨ (t, latestDocumentation docs t before) ∈ docs := by
  unfold latestDocumentation
  cases hlast : (docs.filter (·.1 = t)).getLast? with
  | none => exact Or.inl rfl
  | some d =>
    -- The last one about the target is one of the list, and it is about the target.
    obtain ⟨hd, ht⟩ := List.mem_filter.1 (List.mem_of_getLast? hlast)
    obtain rfl := of_decide_eq_true ht
    exact Or.inr hd

/-- The first documentation counts if there is no later one. -/
theorem latestDocumentation_cons (d : DocTarget × String) (docs : List (DocTarget × String))
    (t : DocTarget) (before : String) :
    latestDocumentation (d :: docs) t before =
      latestDocumentation docs t (if d.1 = t then d.2 else before) := by
  unfold latestDocumentation
  by_cases h : d.1 = t
  · rw [List.filter_cons, if_pos (decide_eq_true h), List.getLast?_cons, if_pos h]
    cases (docs.filter (·.1 = t)).getLast? <;> rfl
  · rw [List.filter_cons, if_neg (by simpa using h), if_neg h]

/-- Among elements with different names, changing the first one of a name is changing all of that
    name. -/
theorem modifyFirst_eq_map {α : Type} {name : α → String} {l : List α} (hn : (l.map name).Nodup)
    (n : String) (f : α → α) :
    modifyFirst (fun a => name a = n) f l = l.map fun a => if name a = n then f a else a := by
  induction l with
  | nil => rfl
  | cons a rest ih =>
    obtain ⟨ha, hrest⟩ := List.nodup_cons.1 hn
    rw [modifyFirst, List.map_cons]
    by_cases h : name a = n
    · -- The others have other names.
      have hothers : ∀ b ∈ rest, (if name b = n then f b else b) = b := fun b hb =>
        if_neg fun hbn => ha (List.mem_map.2 ⟨b, hb, hbn.trans h.symm⟩)
      rw [if_pos (decide_eq_true h), if_pos h, List.map_congr_left hothers, List.map_id']
    · rw [if_neg (by simpa using h), if_neg h, ih hrest]

/-- A message with the documentation that stays of it and of its fields and oneofs. -/
def Message.reworded (docs : List (DocTarget × String)) (id : String) (m : Message) : Message :=
  { m with
    documentation := latestDocumentation docs (.message id) m.documentation
    fields := m.fields.map fun f =>
      { f with documentation := latestDocumentation docs (.field id f.name) f.documentation }
    oneOfs := m.oneOfs.map fun o =>
      { o with documentation := latestDocumentation docs (.oneOf id o.name) o.documentation } }

/-- An enum with the documentation that stays of it and of its values. -/
def EnumType.reworded (docs : List (DocTarget × String)) (id : String) (e : EnumType) : EnumType :=
  { e with
    documentation := latestDocumentation docs (.enum id) e.documentation
    values := e.values.mapIdx fun i v =>
      { v with documentation := latestDocumentation docs (.enumValue id i) v.documentation } }

section Fold

variable (d : DocTarget × String) (docs : List (DocTarget × String)) (id : String)

/-- A documentation renames no field and no oneof. -/
theorem names_onMessage (m : Message) :
    (d.1.onMessage d.2 id m).fields.map (·.name) = m.fields.map (·.name) ∧
      (d.1.onMessage d.2 id m).oneOfs.map (·.name) = m.oneOfs.map (·.name) := by
  obtain ⟨t, documentation⟩ := d
  cases t
  case message other => by_cases h : id = other <;> simp [DocTarget.onMessage, h]
  case field owner name => by_cases h : id = owner <;>
    simp [DocTarget.onMessage, h, map_modifyFirst]
  case oneOf owner name => by_cases h : id = owner <;>
    simp [DocTarget.onMessage, h, map_modifyFirst]
  all_goals exact ⟨rfl, rfl⟩

/-- A documentation is overwritten by what is written later. -/
theorem reworded_onMessage {m : Message} (hf : (m.fields.map (·.name)).Nodup)
    (ho : (m.oneOfs.map (·.name)).Nodup) :
    (d.1.onMessage d.2 id m).reworded docs id = m.reworded (d :: docs) id := by
  obtain ⟨t, documentation⟩ := d
  unfold Message.reworded
  simp only [latestDocumentation_cons]
  cases t
  case message other =>
    by_cases h : id = other
    · simp [DocTarget.onMessage, h]
    · simp [DocTarget.onMessage, h, Ne.symm h]
  case field owner name =>
    by_cases h : id = owner
    · subst h
      -- Only the first field of the name is changed, which is the only one.
      simp only [DocTarget.onMessage, if_true, modifyFirst_eq_map hf, List.map_map]
      simp only [reduceCtorEq, if_false, DocTarget.field.injEq, true_and,
        Message.mk.injEq, and_true]
      refine List.map_congr_left fun f _ => ?_
      by_cases hn : f.name = name <;> simp [hn, Ne.symm]
    · simp [DocTarget.onMessage, h, Ne.symm h]
  case oneOf owner name =>
    by_cases h : id = owner
    · subst h
      -- So is the first oneof of the name.
      simp only [DocTarget.onMessage, if_true, modifyFirst_eq_map ho, List.map_map]
      simp only [reduceCtorEq, if_false, DocTarget.oneOf.injEq, true_and,
        Message.mk.injEq, and_true]
      refine List.map_congr_left fun o _ => ?_
      by_cases hn : o.name = name <;> simp [hn, Ne.symm]
    · simp [DocTarget.onMessage, h, Ne.symm h]
  all_goals simp [DocTarget.onMessage]

/-- The documentation of a message that stays is the last one. -/
theorem foldl_onMessage {m : Message} (hf : (m.fields.map (·.name)).Nodup)
    (ho : (m.oneOfs.map (·.name)).Nodup) :
    docs.foldl (fun m d => d.1.onMessage d.2 id m) m = m.reworded docs id := by
  induction docs generalizing m with
  | nil => simp [Message.reworded]
  | cons d rest ih =>
    -- Names are still different after the first change.
    obtain ⟨hfields, honeOfs⟩ := names_onMessage d id m
    rw [List.foldl_cons, ih (hfields ▸ hf) (honeOfs ▸ ho), reworded_onMessage d rest id hf ho]

/-- The documentation of an enum that stays is the last one. -/
theorem foldl_onEnum (e : EnumType) :
    docs.foldl (fun e d => d.1.onEnum d.2 id e) e = e.reworded docs id := by
  induction docs generalizing e with
  | nil =>
    have hvalues : (e.values.mapIdx fun _ v => v) = e.values := List.ext_getElem? fun i => by
      rw [List.getElem?_mapIdx, Option.map_id']
    unfold EnumType.reworded
    simp only [latestDocumentation_nil, hvalues]
    rfl
  | cons d rest ih =>
    obtain ⟨t, documentation⟩ := d
    rw [List.foldl_cons, ih]
    unfold EnumType.reworded
    simp only [latestDocumentation_cons]
    cases t
    case enum other => by_cases h : id = other <;> simp [DocTarget.onEnum, h, Ne.symm]
    case enumValue owner position =>
      by_cases h : id = owner
      · subst h
        simp only [DocTarget.onEnum, if_true, reduceCtorEq, if_false,
          DocTarget.enumValue.injEq, true_and, EnumType.mk.injEq, and_true]
        -- Values are compared position by position, since a name may occur twice.
        refine List.ext_getElem? fun i => ?_
        simp only [List.getElem?_mapIdx, List.getElem?_modify]
        cases e.values[i]? with
        | none => simp
        | some v => by_cases hi : position = i <;> simp [hi]
      · simp [DocTarget.onEnum, h, Ne.symm h]
    all_goals simp [DocTarget.onEnum]

/-- The documentation of a service that stays is the last one. -/
theorem foldl_onService (s : Service) : docs.foldl (fun s d => d.1.onService d.2 id s) s =
    { s with documentation := latestDocumentation docs (.service id) s.documentation } := by
  induction docs generalizing s with
  | nil => simp
  | cons d rest ih =>
    obtain ⟨t, documentation⟩ := d
    rw [List.foldl_cons, ih, latestDocumentation_cons]
    cases t
    case service other => by_cases h : id = other <;> simp [DocTarget.onService, h, eq_comm]
    all_goals simp [DocTarget.onService]

/-- The documentation of a method that stays is the last one. -/
theorem foldl_onMethod (m : Method) : docs.foldl (fun m d => d.1.onMethod d.2 id m) m =
    { m with documentation := latestDocumentation docs (.method id) m.documentation } := by
  induction docs generalizing m with
  | nil => simp
  | cons d rest ih =>
    obtain ⟨t, documentation⟩ := d
    rw [List.foldl_cons, ih, latestDocumentation_cons]
    cases t
    case method other => by_cases h : id = other <;> simp [DocTarget.onMethod, h, eq_comm]
    all_goals simp [DocTarget.onMethod]

end Fold

end ProtoApi
