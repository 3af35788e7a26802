import ProtoApi.Proofs.Build.RegistrationOrder
import ProtoApi.Proofs.Mixin.Loading

namespace ProtoApi

/-!
# Builds of the same files in another order

Where every file, message and enum of a set can be told from the others by its name, the order of
the files is seen nowhere but in the order of the diagnostics.

* `find?_perm` — what a search finds does not depend on the order of a list in which it can find one
  element at most;
* `DescriptorSet.sources`, `DescriptorSet.Unambiguous` — what has to be told apart;
* `targets_perm`, `load_perm`, `prepare_perm` — the same files are generated, and the same ones are
  loaded;
* `service?_perm` — the same mixins are found;
* `buildApi_perm` — so the builds agree.
-/

/-! ### Searching in another order -/

/-- What a search finds does not depend on the order of a list in which it can find one element at
    most. -/
theorem find?_perm {α : Type} {p : α → Bool} {l l' : List α} (hp : l.Perm l')
    (h : (l.filter p).length ≤ 1) : l.find? p = l'.find? p := by
  have hfilter := hp.filter p
  rw [← List.head?_filter, ← List.head?_filter]
  match hl : l.filter p, h with
  | [], _ =>
    rw [hl] at hfilter
    rw [hfilter.nil_eq]
  | [a], _ =>
    rw [hl] at hfilter
    rw [List.singleton_perm.1 hfilter]

/-- Whether a search finds anything does not depend on the order of a list. -/
theorem find?_isSome_perm {α : Type} (p : α → Bool) {l l' : List α} (hp : l.Perm l') :
    (l.find? p).isSome = (l'.find? p).isSome := by
  rw [List.isSome_find?, List.isSome_find?, hp.any_eq]

/-! ### Sets without ambiguity -/

namespace DescriptorSet

/-- The files whose types a build registers. -/
def sources (set : DescriptorSet) (options : BuildOptions) : List FileDecl :=
  match set.prepare options with
  | .ok p => p.sources
  | .error _ => set.files

/-- A set in which files, messages and enums can be told apart by their names, and requests that
    mean one file at most each. Files without a name are never looked for. -/
structure Unambiguous (set : DescriptorSet) (options : BuildOptions) : Prop where
  names : ((set.files.map (·.name)).filter (· ≠ "")).Nodup
  requested : options.files ≠ []
  targets : ∀ path ∈ options.files, (set.files.filter (·.matches path)).length ≤ 1
  messages : (((set.sources options).flatMap FileDecl.declaredMessages).map (·.id)).Nodup
  enums : (((set.sources options).flatMap FileDecl.declaredEnums).map (·.id)).Nodup

end DescriptorSet

/-- At most one file has a given name. -/
theorem length_filter_name_le {files : List FileDecl}
    (h : ((files.map (·.name)).filter (· ≠ "")).Nodup) {name : String} (hn : name ≠ "") :
    (files.filter (·.name = name)).length ≤ 1 := by
  -- The files of the name are counted as often as the name is listed.
  have hcount := List.nodup_iff_count_le_one.1 h name
  rw [List.count_filter (p := fun n => decide (n ≠ "")) (decide_eq_true hn), List.count_eq_countP,
    List.countP_map, List.countP_eq_length_filter] at hcount
  exact hcount

/-! ### The phases before registration -/

section Prepare

variable {set set' : DescriptorSet} (hp : set.files.Perm set'.files)
include hp

/-- The same files are generated. -/
theorem targets_perm {requested : List String} (hr : requested ≠ [])
    (h : ∀ path ∈ requested, (set.files.filter (·.matches path)).length ≤ 1) :
    set.targets requested = set'.targets requested := by
  have hne : ¬ requested.isEmpty = true := fun he => hr (List.isEmpty_iff.1 he)
  unfold DescriptorSet.targets
  rw [if_neg hne, if_neg hne]
  -- Each request finds the same file, whatever has been found before it.
  have hall : ∀ found : List FileDecl,
      requested.foldlM set.addTarget found = requested.foldlM set'.addTarget found := by
    clear hr hne
    induction requested with
    | nil => exact fun _ => rfl
    | cons path rest ih =>
      intro found
      rw [List.foldlM_cons, List.foldlM_cons]
      have hfound : set.addTarget found path = set'.addTarget found path := by
        unfold DescriptorSet.addTarget
        rw [find?_perm hp (h path List.mem_cons_self)]
      rw [hfound]
      exact congrArg _ (funext (ih fun p hp => h p (List.mem_cons_of_mem _ hp)))
  exact hall []

/-- The same files are loaded. -/
theorem load_perm (plan : MixinPlan) (allowBundled : Bool) :
    plan.load set allowBundled = plan.load set' allowBundled := by
  unfold MixinPlan.load
  rw [MixinPlan.loadFiles_congr]
  intro m _ name _
  exact find?_isSome_perm _ hp

/-- The same is prepared, but for the order of the sources. -/
theorem prepare_perm {options : BuildOptions} (h : set.Unambiguous options) :
    set'.prepare options = set.prepare options >>= fun p =>
      .ok { p with sources := set'.files ++ p.sources.drop set.files.length } := by
  have ht := targets_perm hp h.requested h.targets
  cases hs : set.targets options.files with
  | error e =>
    unfold DescriptorSet.prepare
    rw [← ht, hs]
    rfl
  | ok targets =>
    rw [prepare_of_targets hs, prepare_of_targets (ht ▸ hs), load_perm hp]
    show _ = Except.ok _
    rw [List.drop_left]

/-- The same mixins are found, in the files of the set or else in those that are loaded. -/
theorem service?_perm (h : ((set.files.map (·.name)).filter (· ≠ "")).Nodup)
    (loaded : List FileDecl) {m : Mixin} (hm : m ∈ Mixin.catalog) :
    m.service? (set.files ++ loaded) = m.service? (set'.files ++ loaded) := by
  -- The file is looked for by a name, so that files without one do not matter.
  have hname : m.file ≠ "" := MixinPlan.ne_empty_of_mem_files hm (MixinPlan.file_mem_files m)
  unfold Mixin.service?
  rw [List.find?_append, List.find?_append, find?_perm hp (length_filter_name_le h hname)]

end Prepare

/-! ### The whole build -/

/-- What is built from sources that can be told apart does not depend on their order. -/
theorem Preparation.build_perm (p : Preparation) (config? : Option ServiceConfig)
    {sources : List FileDecl} (hp : p.sources.Perm sources)
    (hs : ∀ m ∈ p.plan.mixins, m.service? p.sources = m.service? sources)
    (hm : ((p.sources.flatMap FileDecl.declaredMessages).map (·.id)).Nodup)
    (he : ((p.sources.flatMap FileDecl.declaredEnums).map (·.id)).Nodup) :
    ApiBuild.Agree (p.build config?) ({ p with sources }.build config?) := by
  obtain ⟨hfault, hagree⟩ := registerTypes_agree { diagnostics := p.unavailable } hp hm he
  unfold build
  simp only
  generalize registerTypes { diagnostics := p.unavailable } p.sources = result at hfault hagree ⊢
  generalize registerTypes { diagnostics := p.unavailable } sources = result' at hfault hagree ⊢
  obtain ⟨ctx, error?⟩ := result
  obtain ⟨ctx', error'?⟩ := result'
  -- Both registrations stop, or neither does.
  cases error? with
  | some e =>
    obtain ⟨e', he'⟩ := Option.isSome_iff_exists.1 hfault.symm
    cases he'
    exact .failed e e'
  | none =>
    cases error'? with
    | some e' => nomatch hfault
    | none => exact p.describe_agree config? hs (hagree rfl)

/-- The order of the files of a set does not matter: where one order can be built, so can each other
    one, to the same model and with the same diagnostics in some order. -/
theorem buildApi_perm (set set' : DescriptorSet) (options : BuildOptions)
    (h : set.Unambiguous options) (hp : set.files.Perm set'.files) :
    ApiBuild.Agree (buildApi set options) (buildApi set' options) := by
  rw [buildApi_eq, buildApi_eq, prepare_perm hp h]
  have hmessages := h.messages
  have henums := h.enums
  unfold DescriptorSet.sources at hmessages henums
  -- Both orders have the same targets, so they fail alike here or prepare the same.
  cases hs : set.targets options.files with
  | error e =>
    unfold DescriptorSet.prepare
    rw [hs]
    exact .failed e e
  | ok targets =>
    rw [prepare_of_targets hs] at hmessages henums ⊢
    show ApiBuild.Agree (Preparation.build _ _) (Preparation.build _ _)
    simp only [List.drop_left]
    apply Preparation.build_perm _ _ (hp.append_right _) _ hmessages henums
    intro m hm
    exact service?_perm hp h.names _
      (MixinPlan.mem_catalog_of_mem_make (MixinPlan.mem_of_mem_load hm))

/-- A file with a map. -/
def shelfFile : FileDecl where
  name? := "shelf.proto"
  package? := "library"
  messages := [
    { name? := "Shelf"
      fields := [{ Mixin.repeated 1 "books" "TYPE_MESSAGE" "books" with
        typeName? := ".library.BooksEntry" }] }]

/-- The file with the entries of the map. -/
def entryFile : FileDecl where
  name? := "entry.proto"
  package? := "library"
  messages := [
    { name? := "BooksEntry"
      options? := some (Table.ofList [("mapEntry", .boolean true)]) }]

/-- A request for the file with the map, and for the methods that operations have. -/
def shelfRequest : BuildOptions where
  files := ["proto/shelf.proto"]
  config? := some { apis := ["google.longrunning.Operations"] }

/-- The entries of a map may be declared before it or after it, also where bundled files are
    loaded. -/
theorem buildApi_shelf_perm :
    (DescriptorSet.mk [shelfFile, entryFile]).Unambiguous shelfRequest ∧
      [shelfFile, entryFile].Perm [entryFile, shelfFile] ∧
      ApiBuild.Agree (buildApi ⟨[shelfFile, entryFile]⟩ shelfRequest)
        (buildApi ⟨[entryFile, shelfFile]⟩ shelfRequest) := by
  have h : (DescriptorSet.mk [shelfFile, entryFile]).Unambiguous shelfRequest :=
    { names := by decide +kernel
      requested := List.cons_ne_nil _ _
      targets := by decide +kernel
      messages := by decide +kernel
      enums := by decide +kernel }
  have hp : [shelfFile, entryFile].Perm [entryFile, shelfFile] :=
    List.Perm.swap entryFile shelfFile []
  exact ⟨h, hp, buildApi_perm ⟨[shelfFile, entryFile]⟩ ⟨[entryFile, shelfFile]⟩ shelfRequest h hp⟩

end ProtoApi
