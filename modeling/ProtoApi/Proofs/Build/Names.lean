import ProtoApi.Proofs.Build.Services

namespace ProtoApi

/-!
# Ids that can be told apart

* `childId_inj` — a name without dots can be read back from the id it is part of;
* `ServiceDecl.Plain` — the methods of a service have different names, all without dots;
* `nodup_methods` — then the methods of services with different ids have different ids, and all of
  them are registered (`service?_withServices`, `method?_withServices`,
  `containsMethod_withServices`).
-/

/-! ### Ids of parts -/

theorem toList_childId (parent name : String) :
    (childId parent name).toList = parent.toList ++ '.' :: name.toList := by
  unfold childId
  rw [String.toList_append, String.toList_append, List.append_assoc]
  rfl

/-- If two texts go on with a dot and agree, one of them is the other one, or a dot comes later as
    well. -/
theorem eq_of_append_dot {p q a b c : List Char} (ha : '.' ∉ a) (hq : q = p ++ c)
    (h : '.' :: a = c ++ '.' :: b) : p = q ∧ a = b := by
  cases c with
  | nil =>
    rw [List.nil_append, List.cons.injEq] at h
    exact ⟨by rw [hq, List.append_nil], h.2⟩
  | cons x c =>
    rw [List.cons_append, List.cons.injEq] at h
    exact absurd (h.2 ▸ List.mem_append_right c List.mem_cons_self) ha

/-- A name without dots can be read back from the id it is part of. -/
theorem childId_inj {p q a b : String} (ha : '.' ∉ a.toList) (hb : '.' ∉ b.toList)
    (h : childId p a = childId q b) : p = q ∧ a = b := by
  have hlist := congrArg String.toList h
  rw [toList_childId, toList_childId, List.append_eq_append_iff] at hlist
  rcases hlist with ⟨c, hq, hc⟩ | ⟨c, hp, hc⟩
  · obtain ⟨hpq, hab⟩ := eq_of_append_dot ha hq hc
    exact ⟨String.toList_inj.1 hpq, String.toList_inj.1 hab⟩
  · obtain ⟨hqp, hba⟩ := eq_of_append_dot hb hp hc
    exact ⟨(String.toList_inj.1 hqp).symm, (String.toList_inj.1 hba).symm⟩

/-- Parts of one parent have the names that their ids end with. -/
theorem childId_right_inj {parent a b : String} (h : childId parent a = childId parent b) :
    a = b := by
  have hlist := congrArg String.toList h
  rw [toList_childId, toList_childId, List.append_cancel_left_eq, List.cons.injEq] at hlist
  exact String.toList_inj.1 hlist.2

/-! ### Methods -/

/-- The methods of a service have different names, and no name has a dot. -/
structure ServiceDecl.Plain (s : ServiceDecl) : Prop where
  nodup : (s.methods.map (·.name)).Nodup
  noDot : ∀ m ∈ s.methods, '.' ∉ m.name.toList

/-- The services of plain files are plain. -/
theorem plain_of_mem_declaredServices {files : List FileDecl}
    (h : ∀ f ∈ files, ∀ s ∈ f.services, s.Plain) :
    ∀ d ∈ files.flatMap FileDecl.declaredServices, d.decl.Plain := by
  intro d hd
  obtain ⟨f, hf, hd⟩ := List.mem_flatMap.1 hd
  obtain ⟨s, hs, rfl⟩ := List.mem_map.1 hd
  exact h f hf s hs

section Methods

variable {config? : Option ServiceConfig} {r : Registry}

/-- A method that is built comes from a declaration. -/
theorem exists_of_mem_methods {d : DeclaredService} {m : Method} (h : m ∈ d.methods config? r) :
    ∃ decl ∈ d.decl.methods, decl.native config? r d.package d.id = .ok m ∧
      m.id = childId d.id decl.name := by
  obtain ⟨decl, hdecl, hm⟩ := List.mem_filterMap.1 h
  cases hn : decl.native config? r d.package d.id with
  | error e =>
    rw [hn] at hm
    nomatch hm
  | ok method =>
    rw [hn] at hm
    cases hm
    exact ⟨decl, hdecl, hn, id_of_native hn⟩

/-- The ids of the methods that are built are those of some of the declarations, in the same
    order. -/
theorem ids_nativeMethods_sublist (package serviceId : String) (decls : List MethodDecl) :
    ((nativeMethods config? r package serviceId decls).map (·.id)).Sublist
      ((decls.map (·.name)).map (childId serviceId)) := by
  induction decls with
  | nil => exact .slnil
  | cons decl rest ih =>
    unfold nativeMethods at ih ⊢
    -- A declaration that cannot be built leaves its id out.
    cases hn : decl.native config? r package serviceId with
    | error e =>
      rw [List.filterMap_cons_none (by rw [hn]; rfl)]
      exact ih.cons _
    | ok m =>
      rw [List.filterMap_cons_some (by rw [hn]; rfl), List.map_cons, id_of_native hn]
      exact ih.cons_cons _

/-- The methods of a service have different ids if they have different names. -/
theorem nodup_nativeMethods {package serviceId : String} {decls : List MethodDecl}
    (h : (decls.map (·.name)).Nodup) :
    ((nativeMethods config? r package serviceId decls).map (·.id)).Nodup :=
  (ids_nativeMethods_sublist package serviceId decls).nodup (h.map fun _ _ => childId_right_inj)

/-- Methods of different services have different ids. -/
theorem nodup_methods {ds : List DeclaredService} (hids : (ds.map (·.id)).Nodup)
    (hplain : ∀ d ∈ ds, d.decl.Plain) : ((ds.flatMap (·.methods config? r)).map (·.id)).Nodup := by
  rw [List.map_flatMap, List.nodup_flatMap]
  refine ⟨fun d hd => nodup_nativeMethods (hplain d hd).nodup, ?_⟩
  -- Two services with a common id of methods have the same id, since names have no dots.
  rw [List.nodup_iff_pairwise_ne, List.pairwise_map] at hids
  refine hids.imp_of_mem ?_
  intro d e hd he hne id hmem hmem'
  obtain ⟨m, hm, rfl⟩ := List.mem_map.1 hmem
  obtain ⟨n, hn, hid⟩ := List.mem_map.1 hmem'
  obtain ⟨decl, hdecl, -, hm⟩ := exists_of_mem_methods hm
  obtain ⟨decl', hdecl', -, hn⟩ := exists_of_mem_methods hn
  rw [hm, hn] at hid
  exact hne
    (childId_inj ((hplain e he).noDot decl' hdecl') ((hplain d hd).noDot decl hdecl) hid).1.symm

/-- Services with different ids are all registered. -/
theorem service?_withServices {ds : List DeclaredService} (hids : (ds.map (·.id)).Nodup)
    {d : DeclaredService} (hd : d ∈ ds) (ctx : Context) :
    (ctx.withServices config? r ds).registry.service? d.id = some (d.entity config? r) :=
  Table.get?_foldl_insert_of_mem hids hd ctx.registry.services

/-- So are their methods. -/
theorem method?_withServices {ds : List DeclaredService} (hids : (ds.map (·.id)).Nodup)
    (hplain : ∀ d ∈ ds, d.decl.Plain) {d : DeclaredService} (hd : d ∈ ds) {m : Method}
    (hm : m ∈ d.methods config? r) (ctx : Context) :
    (ctx.withServices config? r ds).registry.method? m.id = some m :=
  Table.get?_foldl_insert_of_mem (nodup_methods hids hplain) (List.mem_flatMap.2 ⟨d, hd, hm⟩)
    ctx.registry.methods

/-- Nothing else is registered, so that a service has the methods that it declares. -/
theorem containsMethod_withServices {ds : List DeclaredService} (hids : (ds.map (·.id)).Nodup)
    (hplain : ∀ d ∈ ds, d.decl.Plain) {d : DeclaredService} (hd : d ∈ ds) {name : String}
    (hname : '.' ∉ name.toList) {ctx : Context} (hctx : ctx.registry.methods = Table.empty) :
    (ctx.withServices config? r ds).registry.containsMethod (childId d.id name) = true ↔
      ∃ m ∈ d.methods config? r, m.id = childId d.id name := by
  have hempty : (Table.empty : Table Method).contains (childId d.id name) = false := rfl
  unfold Registry.containsMethod Context.withServices
  simp only
  rw [hctx, Table.contains_foldl_insert, hempty, Bool.or_false, List.any_eq_true]
  simp only [decide_eq_true_eq, List.mem_flatMap]
  constructor
  · rintro ⟨m, ⟨d', hd', hm⟩, hid⟩
    obtain ⟨decl, hdecl, -, hm'⟩ := exists_of_mem_methods hm
    have hsame := (childId_inj ((hplain d' hd').noDot decl hdecl) hname (hm'.symm.trans hid)).1
    rw [List.inj_on_of_nodup_map hids hd' hd hsame] at hm
    exact ⟨m, hm, hid⟩
  · rintro ⟨m, hm, hid⟩
    exact ⟨m, ⟨d, hd, hm⟩, hid⟩

end Methods

end ProtoApi
