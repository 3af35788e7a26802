import ProtoApi.Mixin.Plan
import Mathlib.Data.List.Nodup

namespace ProtoApi

/-!
# Which files a plan loads

* `mem_catalog_of_mem_make` — a plan has mixins of the catalog only, for each of which all files are
  bundled;
* `Carries` — whether a file is in the set or loaded;
* `loadFiles_bundled` — where bundled files may be used, every mixin is available, and all its files
  are carried;
* `loadFiles_available` — where the set carries the own files of all mixins, nothing has to be
  loaded;
* `mem_of_mem_loadFiles`, `mem_loadFiles_or_reported` — the mixins that stay are mixins of the plan,
  and the others are reported;
* `mem_bundledFiles_of_mem_loadFiles`, `find?_append_of_carries` — what is loaded are bundled files;
* `loadFiles_congr` — what is loaded depends only on which files the set carries.
-/

namespace MixinPlan

/-! ### The mixins of a plan -/

/-- Adding a mixin brings in that mixin at most. -/
theorem mem_of_mem_addMixin {mixins : List Mixin} {m x : Mixin} (h : x ∈ addMixin mixins m) :
    x = m ∨ x ∈ mixins := by
  unfold addMixin at h
  split at h
  · exact Or.inr h
  · exact (List.mem_append.1 h).symm.imp_left List.mem_singleton.1

/-- The mixins among some APIs are mixins of the catalog. -/
theorem mem_catalog_of_mem_mixinsAmong {apis : List String} {m : Mixin} (h : m ∈ mixinsAmong apis) :
    m ∈ Mixin.catalog := by
  -- The induction is on the mixins still to be added, for any mixins of the catalog before them.
  have hall : ∀ l : List Mixin, (∀ x ∈ l, x ∈ Mixin.catalog) → ∀ before : List Mixin,
      (∀ x ∈ before, x ∈ Mixin.catalog) → ∀ x ∈ l.foldl addMixin before, x ∈ Mixin.catalog := by
    intro l
    induction l with
    | nil => exact fun _ _ hb => hb
    | cons a l ih =>
      intro hl before hb
      refine ih (fun x hx => hl x (List.mem_cons_of_mem _ hx)) _ fun x hx => ?_
      rcases mem_of_mem_addMixin hx with rfl | hx
      · exact hl x List.mem_cons_self
      · exact hb x hx
  refine hall _ (fun x hx => ?_) [] (by simp) m h
  obtain ⟨api, -, hx⟩ := List.mem_filterMap.1 hx
  exact List.mem_of_find?_eq_some hx

/-- A plan has the mixins that its configuration lists, and the one for operations where it is
    forced to. -/
theorem mixins_make (config? : Option ServiceConfig) (force : Bool) :
    (make config? force).mixins
      = if force then addMixin (mixinsAmong ((config?.map (·.apis)).getD [])) .operations
        else mixinsAmong ((config?.map (·.apis)).getD []) := by
  cases force
  · rfl
  · unfold make
    show MixinPlan.mixins (ite _ _ _) = _
    rw [apply_ite mixins]
    exact ite_self _

/-- A plan has mixins of the catalog only. -/
theorem mem_catalog_of_mem_make {config? : Option ServiceConfig} {force : Bool} {m : Mixin}
    (h : m ∈ (make config? force).mixins) : m ∈ Mixin.catalog := by
  rw [mixins_make] at h
  split at h
  · rcases mem_of_mem_addMixin h with rfl | h
    · decide
    · exact mem_catalog_of_mem_mixinsAmong h
  · exact mem_catalog_of_mem_mixinsAmong h

/-- All files of the catalog are bundled, each under its own name. -/
theorem exists_bundledFile? {m : Mixin} (hm : m ∈ Mixin.catalog) {name : String}
    (hn : name ∈ m.files) : ∃ f, Mixin.bundledFile? name = some f ∧ f.name = name := by
  have hall : ∀ m ∈ Mixin.catalog, ∀ name ∈ m.files, (Mixin.bundledFile? name).isSome = true := by
    decide
  obtain ⟨f, hf⟩ := Option.isSome_iff_exists.1 (hall m hm name hn)
  have hname := hf
  unfold Mixin.bundledFile? at hname
  exact ⟨f, hf,
    of_decide_eq_true (List.find?_some (p := fun f : FileDecl => decide (f.name = name)) hname)⟩

/-- The files of the catalog have names. -/
theorem ne_empty_of_mem_files {m : Mixin} (hm : m ∈ Mixin.catalog) {name : String}
    (hn : name ∈ m.files) : name ≠ "" := by
  have hall : ∀ m ∈ Mixin.catalog, ∀ name ∈ m.files, name ≠ "" := by decide
  exact hall m hm name hn

/-- The file that declares a mixin is one of its files. -/
theorem file_mem_files (m : Mixin) : m.file ∈ m.files := by
  unfold Mixin.files
  exact List.mem_append_right _ (List.mem_singleton.2 rfl)

/-! ### What is carried after loading -/

/-- Whether the set or what is loaded carries a file of a name. -/
def Carries (set : DescriptorSet) (loaded : List FileDecl) (name : String) : Prop :=
  ((set.findFile? name).isSome || loaded.any (·.name = name)) = true

instance (set : DescriptorSet) (loaded : List FileDecl) (name : String) :
    Decidable (Carries set loaded name) := by
  unfold Carries
  infer_instance

/-- Loading more keeps what is carried. -/
theorem Carries.append {set : DescriptorSet} {loaded : List FileDecl} {name : String}
    (h : Carries set loaded name) (more : List FileDecl) : Carries set (loaded ++ more) name := by
  unfold Carries at h ⊢
  rw [List.any_append, ← Bool.or_assoc, h, Bool.true_or]

/-- What is loaded may as well be in the set. -/
theorem carries_nil_append (set : DescriptorSet) (loaded : List FileDecl) (name : String) :
    Carries ⟨set.files ++ loaded⟩ [] name ↔ Carries set loaded name := by
  unfold Carries DescriptorSet.findFile?
  rw [List.find?_append, List.any_nil, Bool.or_false, Option.isSome_or, List.isSome_find?]
  simp

/-- A file that is bundled is loaded unless it is there already. -/
theorem missingFiles_cons (set : DescriptorSet) (loaded : List FileDecl) (name : String)
    (names : List String) :
    missingFiles set loaded (name :: names)
      = missingFiles set
          (if Carries set loaded name then loaded else loaded ++ (Mixin.bundledFile? name).toList)
            names := by
  rfl

/-- Loading adds to what is loaded. -/
theorem exists_missingFiles_eq (set : DescriptorSet) (loaded : List FileDecl)
    (names : List String) : ∃ more, missingFiles set loaded names = loaded ++ more := by
  induction names generalizing loaded with
  | nil => exact ⟨[], (List.append_nil loaded).symm⟩
  | cons name names ih =>
    rw [missingFiles_cons]
    split
    · exact ih loaded
    · obtain ⟨more, hmore⟩ := ih (loaded ++ (Mixin.bundledFile? name).toList)
      exact ⟨(Mixin.bundledFile? name).toList ++ more, by rw [hmore, List.append_assoc]⟩

/-- After loading, each name with a bundled file is carried. -/
theorem carries_missingFiles {set : DescriptorSet} {loaded : List FileDecl} {names : List String}
    {name : String} (hn : name ∈ names)
    (hb : ∃ f, Mixin.bundledFile? name = some f ∧ f.name = name) :
    Carries set (missingFiles set loaded names) name := by
  induction names generalizing loaded with
  | nil => exact absurd hn List.not_mem_nil
  | cons other names ih =>
    rw [missingFiles_cons]
    rcases List.mem_cons.1 hn with rfl | hn
    -- What later names load comes behind what this one loads, and takes nothing away.
    · obtain ⟨more, hmore⟩ := exists_missingFiles_eq set
        (if Carries set loaded name then loaded
          else loaded ++ (Mixin.bundledFile? name).toList) names
      rw [hmore]
      apply Carries.append
      split
      · assumption
      · obtain ⟨f, hf, hname⟩ := hb
        unfold Carries
        rw [hf, List.any_append, Option.toList_some, List.any_cons, decide_eq_true hname,
          Bool.true_or, Bool.or_true, Bool.or_true]
    · exact ih hn

/-! ### What a plan loads -/

/-- What is loaded once the files of a mixin have been looked for. -/
def loadOwn (set : DescriptorSet) (allowBundled : Bool) (loaded : List FileDecl) (m : Mixin) :
    List FileDecl :=
  if allowBundled then missingFiles set loaded m.files else loaded

/-- A mixin is available if its own file is carried, and the mixins after it load their files behind
    those of it. -/
theorem loadFiles_cons {set : DescriptorSet} {allowBundled : Bool} {loaded files : List FileDecl}
    {m : Mixin} {rest available : List Mixin} {diagnostics : List Diagnostic}
    (hrest : loadFiles set allowBundled (loadOwn set allowBundled loaded m) rest
      = (files, available, diagnostics)) :
    loadFiles set allowBundled loaded (m :: rest)
      = if Carries set (loadOwn set allowBundled loaded m) m.file then
        (files, m :: available, diagnostics)
        else (files, available, .mixinUnavailable m.api :: diagnostics) := by
  unfold loadOwn at hrest
  rw [loadFiles]
  simp only
  rw [hrest]
  rfl

/-- Where bundled files may be used, all mixins of the catalog are available, and all their files
    are carried. -/
theorem loadFiles_bundled (set : DescriptorSet) (loaded : List FileDecl) (mixins : List Mixin)
    (hc : ∀ m ∈ mixins, m ∈ Mixin.catalog) :
    ∃ more, loadFiles set true loaded mixins = (loaded ++ more, mixins, []) ∧
      ∀ m ∈ mixins, ∀ name ∈ m.files, Carries set (loaded ++ more) name := by
  induction mixins generalizing loaded with
  | nil => exact ⟨[], by rw [List.append_nil]; rfl, by simp⟩
  | cons m rest ih =>
    have hm := hc m List.mem_cons_self
    -- The first mixin loads its own files, and the others load theirs behind them.
    obtain ⟨own, hown⟩ := exists_missingFiles_eq set loaded m.files
    have hcarries : ∀ name ∈ m.files, Carries set (loaded ++ own) name := by
      intro name hn
      rw [← hown]
      exact carries_missingFiles hn (exists_bundledFile? hm hn)
    obtain ⟨more, hload, hrest⟩ := ih (loaded ++ own) fun x hx => hc x (List.mem_cons_of_mem _ hx)
    refine ⟨own ++ more, ?_, ?_⟩
    · have hloadOwn : loadOwn set true loaded m = loaded ++ own := hown
      rw [← hloadOwn] at hload
      rw [loadFiles_cons hload, hloadOwn, if_pos (hcarries m.file (file_mem_files m)),
        List.append_assoc]
    · rw [← List.append_assoc]
      intro x hx name hn
      rcases List.mem_cons.1 hx with rfl | hx
      · exact (hcarries name hn).append more
      · exact hrest x hx name hn

/-- Where the set carries the own files of all mixins, nothing is loaded and all mixins are
    available. -/
theorem loadFiles_available (set : DescriptorSet) (mixins : List Mixin)
    (h : ∀ m ∈ mixins, Carries set [] m.file) :
    loadFiles set false [] mixins = ([], mixins, []) := by
  induction mixins with
  | nil => rfl
  | cons m rest ih =>
    have hrest : loadFiles set false (loadOwn set false [] m) rest = ([], rest, []) :=
      ih fun x hx => h x (List.mem_cons_of_mem _ hx)
    have hm : Carries set (loadOwn set false [] m) m.file := h m List.mem_cons_self
    rw [loadFiles_cons hrest, if_pos hm]

/-- Loading drops mixins, but adds none. -/
theorem mem_of_mem_loadFiles {set : DescriptorSet} {allowBundled : Bool} {loaded : List FileDecl}
    {mixins : List Mixin} {m : Mixin} (h : m ∈ (loadFiles set allowBundled loaded mixins).2.1) :
    m ∈ mixins := by
  induction mixins generalizing loaded with
  | nil => exact h
  | cons x rest ih =>
    rcases hrest : loadFiles set allowBundled (loadOwn set allowBundled loaded x) rest with
      ⟨files, available, diagnostics⟩
    rw [loadFiles_cons hrest] at h
    have hmem : m = x ∨ m ∈ available := by
      split at h
      · exact List.mem_cons.1 h
      · exact Or.inr h
    rcases hmem with rfl | hmem
    · exact List.mem_cons_self
    · exact List.mem_cons_of_mem _ (ih (by rw [hrest]; exact hmem))

/-- No mixin becomes available by being loaded. -/
theorem mem_of_mem_load {p : MixinPlan} {set : DescriptorSet} {allowBundled : Bool} {m : Mixin}
    (h : m ∈ (p.load set allowBundled).2.1.mixins) : m ∈ p.mixins :=
  mem_of_mem_loadFiles h

/-- A mixin that is dropped is reported. -/
theorem mem_loadFiles_or_reported (set : DescriptorSet) (allowBundled : Bool)
    (loaded : List FileDecl) {mixins : List Mixin} {m : Mixin} (hm : m ∈ mixins) :
    m ∈ (loadFiles set allowBundled loaded mixins).2.1 ∨
      .mixinUnavailable m.api ∈ (loadFiles set allowBundled loaded mixins).2.2 := by
  induction mixins generalizing loaded with
  | nil => exact absurd hm List.not_mem_nil
  | cons x rest ih =>
    rcases hrest : loadFiles set allowBundled (loadOwn set allowBundled loaded x) rest with
      ⟨files, available, diagnostics⟩
    -- The first mixin is settled at its own turn, all others by what follows.
    rw [loadFiles_cons hrest]
    rcases List.mem_cons.1 hm with rfl | hm
    · split
      · exact Or.inl List.mem_cons_self
      · exact Or.inr List.mem_cons_self
    · have hlater := ih (loadOwn set allowBundled loaded x) hm
      rw [hrest] at hlater
      split
      · exact hlater.imp_left (List.mem_cons_of_mem _)
      · exact hlater.imp_right (List.mem_cons_of_mem _)

/-- A mixin that is not available is reported. -/
theorem mem_load_or_reported {p : MixinPlan} (set : DescriptorSet) (allowBundled : Bool) {m : Mixin}
    (hm : m ∈ p.mixins) :
    m ∈ (p.load set allowBundled).2.1.mixins ∨
      .mixinUnavailable m.api ∈ (p.load set allowBundled).2.2 :=
  mem_loadFiles_or_reported set allowBundled [] hm

/-! ### Bundled files -/

/-- What is loaded is bundled. -/
theorem mem_bundledFiles_of_mem_missingFiles {set : DescriptorSet} {loaded : List FileDecl}
    {names : List String} {f : FileDecl} (hloaded : ∀ f ∈ loaded, f ∈ Mixin.bundledFiles)
    (h : f ∈ missingFiles set loaded names) : f ∈ Mixin.bundledFiles := by
  induction names generalizing loaded with
  | nil => exact hloaded f h
  | cons name names ih =>
    rw [missingFiles_cons] at h
    refine ih ?_ h
    split
    · exact hloaded
    · intro g hg
      rcases List.mem_append.1 hg with hg | hg
      · exact hloaded g hg
      · exact List.mem_of_find?_eq_some (Option.mem_toList.1 hg)

/-- What is loaded is bundled. -/
theorem mem_bundledFiles_of_mem_loadFiles {set : DescriptorSet} {allowBundled : Bool}
    {loaded : List FileDecl} {mixins : List Mixin} {f : FileDecl}
    (hloaded : ∀ f ∈ loaded, f ∈ Mixin.bundledFiles)
    (h : f ∈ (loadFiles set allowBundled loaded mixins).1) : f ∈ Mixin.bundledFiles := by
  induction mixins generalizing loaded with
  | nil => exact hloaded f h
  | cons m rest ih =>
    rcases hrest : loadFiles set allowBundled (loadOwn set allowBundled loaded m) rest with
      ⟨files, available, diagnostics⟩
    rw [loadFiles_cons hrest] at h
    have hmem : f ∈ (loadFiles set allowBundled (loadOwn set allowBundled loaded m) rest).1 := by
      rw [hrest]
      split at h <;> exact h
    refine ih ?_ hmem
    unfold loadOwn
    split
    · exact fun g => mem_bundledFiles_of_mem_missingFiles hloaded
    · exact hloaded

/-- Bundled files with the same name are the same. -/
theorem eq_of_mem_bundledFiles {f g : FileDecl} (hf : f ∈ Mixin.bundledFiles)
    (hg : g ∈ Mixin.bundledFiles) (h : f.name = g.name) : f = g := by
  have hn : (Mixin.bundledFiles.map (·.name)).Nodup := by decide
  exact List.inj_on_of_nodup_map hn hf hg h

/-- A file that is carried, but not in the set, is the bundled one. -/
theorem find?_append_of_carries {set : DescriptorSet} {loaded : List FileDecl}
    (hloaded : ∀ f ∈ loaded, f ∈ Mixin.bundledFiles) {f : FileDecl} (hf : f ∈ Mixin.bundledFiles)
    (hset : set.findFile? f.name = none) (hc : Carries set loaded f.name) :
    (set.files ++ loaded).find? (·.name = f.name) = some f := by
  have hnone : set.files.find? (·.name = f.name) = none := hset
  unfold Carries at hc
  rw [hset, Option.isSome_none, Bool.false_or, ← List.isSome_find?] at hc
  obtain ⟨g, hg⟩ := Option.isSome_iff_exists.1 hc
  have hname := List.find?_some (p := fun x : FileDecl => decide (x.name = f.name)) hg
  rw [List.find?_append, hnone, Option.none_or, hg,
    eq_of_mem_bundledFiles (hloaded g (List.mem_of_find?_eq_some hg)) hf (of_decide_eq_true hname)]

/-! ### What loading depends on -/

/-- Which files are missing depends only on which of the names the set carries. -/
theorem missingFiles_congr {set set' : DescriptorSet} {names : List String}
    (h : ∀ name ∈ names, (set.findFile? name).isSome = (set'.findFile? name).isSome)
    (loaded : List FileDecl) : missingFiles set loaded names = missingFiles set' loaded names := by
  induction names generalizing loaded with
  | nil => rfl
  | cons name names ih =>
    have hname : Carries set loaded name ↔ Carries set' loaded name := by
      unfold Carries
      rw [h name List.mem_cons_self]
    rw [missingFiles_cons, missingFiles_cons]
    simp only [hname]
    exact ih (fun n hn => h n (List.mem_cons_of_mem _ hn)) _

/-- What some mixins load depends only on which of their files the set carries. -/
theorem loadFiles_congr {set set' : DescriptorSet} {mixins : List Mixin}
    (h : ∀ m ∈ mixins, ∀ name ∈ m.files, (set.findFile? name).isSome = (set'.findFile? name).isSome)
    (allowBundled : Bool) (loaded : List FileDecl) :
    loadFiles set allowBundled loaded mixins = loadFiles set' allowBundled loaded mixins := by
  induction mixins generalizing loaded with
  | nil => rfl
  | cons m rest ih =>
    have hm := h m List.mem_cons_self
    unfold loadFiles
    rw [missingFiles_congr hm, hm m.file (file_mem_files m)]
    simp only [ih fun x hx => h x (List.mem_cons_of_mem _ hx)]

end MixinPlan

end ProtoApi
