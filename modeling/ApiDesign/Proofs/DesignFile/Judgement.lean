import ApiDesign.Proofs.DesignFile.Verdicts

/-!
# Verdicts and the builder

The declarations of a design file are made one after the other on one builder, and some of them within
the body of another one.  What matters of the design under construction is which names were accepted
(`Design.Has`); as long as it has the accepted ones, the result for the next entry has the error that
the verdict on it says, and no other.  So the recorded errors are those of the verdicts, section by
section.

* `Building.addAll_judge` — the run over a section, from the step for one entry;
* `SchemeEntry.judged`, `TypeEntry.judged`, `MethodEntry.judged` — the steps;
* `ServiceProgress.foldl_next_judge` — the run over the services, with their methods.
-/

namespace ApiDesign

variable {Node α : Type}

/-! ### The run over a section -/

namespace Building

/-- The verdicts on some entries tell what comes of adding them.  `R` says what a node has of the
entries that were accepted before. -/
structure Judges (add : Node → α → Except DesignError Node)
    (fault : List α → α → Option DesignError) (R : List α → Node → Prop) (xs : List α) : Prop where
  error : ∀ {earlier node}, R earlier node → ∀ x ∈ xs, errorOf? (add node x) = fault earlier x
  next : ∀ {earlier node made}, R earlier node → ∀ x ∈ xs, add node x = .ok made →
    R (earlier ++ [x]) made

variable {add : Node → α → Except DesignError Node} {fault : List α → α → Option DesignError}
  {R : List α → Node → Prop} {earlier xs : List α}

theorem Judges.tail {x : α} (h : Judges add fault R (x :: xs)) : Judges add fault R xs where
  error := fun hR y hy => h.error hR y (List.mem_cons_of_mem x hy)
  next := fun hR y hy => h.next hR y (List.mem_cons_of_mem x hy)

/-- **The run over a section.**  Every rejected entry leaves the error of its verdict, and the accepted
entries are those of the verdicts. -/
theorem addAll_judge (h : Judges add fault R xs) {b : Building Node} (hR : R earlier b.node) :
    (b.addAll add xs).errors = b.errors ++ Verdict.errors (Verdict.judge fault earlier xs) ∧
    R (earlier ++ Verdict.accepted (Verdict.judge fault earlier xs)) (b.addAll add xs).node ∧
    accepted add b.node xs = Verdict.accepted (Verdict.judge fault earlier xs) := by
  induction xs generalizing b earlier with
  | nil =>
    refine ⟨(List.append_nil _).symm, ?_, rfl⟩
    show R (earlier ++ []) b.node
    rwa [List.append_nil]
  | cons x xs ih =>
    have hfault : errorOf? (add b.node x) = fault earlier x := h.error hR x List.mem_cons_self
    rw [addAll_cons, accepted]
    cases hadd : add b.node x with
    | error e =>
      rw [hadd] at hfault
      have hverdict : fault earlier x = some e := hfault.symm
      obtain ⟨herrors, hnode, haccepted⟩ := ih h.tail (b := ⟨b.node, b.errors ++ [e]⟩) hR
      rw [Verdict.judge_cons_of_some hverdict, Verdict.errors_cons_some, Verdict.accepted_cons_some]
      refine ⟨?_, hnode, haccepted⟩
      refine herrors.trans ?_
      rw [List.append_assoc, List.singleton_append]
    | ok made =>
      rw [hadd] at hfault
      have hverdict : fault earlier x = none := hfault.symm
      have hmade : R (earlier ++ [x]) made := h.next hR x List.mem_cons_self hadd
      obtain ⟨herrors, hnode, haccepted⟩ := ih h.tail (b := ⟨made, b.errors⟩) hmade
      rw [Verdict.judge_cons_of_none hverdict, Verdict.errors_cons_none, Verdict.accepted_cons_none]
      refine ⟨herrors, ?_, congrArg (x :: ·) haccepted⟩
      rw [List.append_assoc, List.singleton_append] at hnode
      exact hnode

end Building

/-- The run over the declarations of a section. -/
theorem Builder.declareAll_judge {declaration : α → Declaration}
    {add : Design → α → Except DesignError Design} {fault : List α → α → Option DesignError}
    {R : List α → Design → Prop} {earlier xs : List α} (hperforms : Performs declaration add)
    (h : Building.Judges add fault R xs) {b : Builder} (hR : R earlier b.design) :
    (b.declareAll (xs.map declaration)).errors =
        b.errors ++ Verdict.errors (Verdict.judge fault earlier xs) ∧
      R (earlier ++ Verdict.accepted (Verdict.judge fault earlier xs))
        (b.declareAll (xs.map declaration)).design := by
  have hbuilding := building_declareAll hperforms b xs
  obtain ⟨herrors, hnode, -⟩ := Building.addAll_judge h (b := b.building) hR
  rw [← hbuilding] at herrors hnode
  exact ⟨herrors, hnode⟩

/-- A look-up by name succeeds if the name is among those of the entries. -/
theorem isSome_find?_iff_of_map_eq {β γ : Type} [DecidableEq γ] {f : α → γ} {g : β → γ}
    {xs : List α} {ys : List β} (h : xs.map f = ys.map g) (key : γ) :
    (xs.find? fun x => f x = key).isSome = true ↔ ∃ y ∈ ys, g y = key := by
  rw [← List.mem_map, ← h, List.mem_map, List.find?_isSome]
  simp only [decide_eq_true_eq]

/-- A new entry goes to the end, in the list of names as well. -/
theorem map_concat_eq {β γ : Type} {f : α → γ} {g : β → γ} {xs : List α} {ys : List β}
    (h : xs.map f = ys.map g) {x : α} {y : β} (hxy : f x = g y) :
    (xs ++ [x]).map f = (ys ++ [y]).map g := by
  rw [List.map_append, List.map_append, h, List.map_singleton, List.map_singleton, hxy]

/-! ### What a design has -/

/-- The service of an accepted entry, with its accepted methods. -/
structure AcceptedService.Made (a : AcceptedService) (made : Service) : Prop where
  name : made.name = a.service.name
  methods : made.methods.map (·.name) = a.methods.map (·.name)

/-- The design has what was accepted so far, under different names. -/
structure Design.Has (schemes : List SchemeEntry) (types : List TypeEntry)
    (services : List AcceptedService) (d : Design) : Prop where
  registered : d.schemes.schemes = schemes.map SchemeEntry.scheme
  schemeNames : (schemes.map (·.name)).Nodup
  typeNames : d.types.map (·.name) = types.map (·.name)
  made : List.Forall₂ AcceptedService.Made services d.services
  serviceNames : (services.map (·.service.name)).Nodup

variable {schemes : List SchemeEntry} {types : List TypeEntry} {services : List AcceptedService}
  {d : Design}

/-! ### Schemes and types -/

theorem Design.Has.contains_iff (h : d.Has schemes types services) (name : String) :
    d.schemes.contains name = true ↔ ∃ s ∈ schemes, s.name = name := by
  have hnames : d.schemes.schemes.map (·.name) = schemes.map (·.name) := by
    rw [h.registered, List.map_map]
    rfl
  exact isSome_find?_iff_of_map_eq hnames name

theorem SchemeEntry.judged (xs : List SchemeEntry) :
    Building.Judges SchemeEntry.addTo SchemeEntry.fault
      (fun earlier => Design.Has earlier types services) xs where
  error := by
    intro earlier d h s _
    rw [addTo, errorOf?_guarded, errorOf?_guarded, errorOf?_guarded, errorOf?_guarded, fault]
    simp only [h.contains_iff]
    rfl
  next := by
    intro earlier d made h s _ hadd
    obtain ⟨hnew, -, rfl⟩ := addTo_eq_ok_iff.1 hadd
    refine ⟨?_, nodup_map_concat _ h.schemeNames ?_, h.typeNames, h.made, h.serviceNames⟩
    · rw [List.map_append, ← h.registered]
      rfl
    · intro t ht hname
      refine hnew t.scheme ?_ hname
      rw [h.registered]
      exact List.mem_map_of_mem ht

theorem TypeEntry.judged (xs : List TypeEntry) :
    Building.Judges TypeEntry.addTo TypeEntry.fault
      (fun earlier => Design.Has schemes earlier services) xs where
  error := by
    intro earlier d h t _
    have htaken : (d.userType? t.name).isSome = true ↔ ∃ u ∈ earlier, u.name = t.name :=
      isSome_find?_iff_of_map_eq h.typeNames t.name
    rw [addTo, errorOf?_guarded, errorOf?_map, toType, errorOf?_map, fault]
    simp only [htaken]
  next := by
    intro earlier d made h t _ hadd
    obtain ⟨-, type, htype, rfl⟩ := addTo_eq_ok_iff.1 hadd
    obtain ⟨attributes, -, rfl⟩ := map_eq_ok_iff.1 htype
    exact ⟨h.registered, h.schemeNames, map_concat_eq h.typeNames rfl, h.made, h.serviceNames⟩

/-! ### Methods -/

section Methods

variable {declared : List UserType} (hnames : declared.map (·.name) = types.map (·.name))
include hnames

theorem PayloadEntry.errorOf?_toPayload (p : Option PayloadEntry) :
    errorOf? (toPayload declared p) = fault types p := by
  cases p with
  | none => rfl
  | some p =>
    cases p with
    | inline entries => exact errorOf?_map _ _
    | named name =>
      have hfound := isSome_find?_iff_of_map_eq hnames name
      rw [toPayload, errorOf?_map, namedPayload, fault]
      simp only [← hfound]
      cases declared.find? fun t => t.name = name <;> rfl

theorem MethodEntry.errorOf?_toMethod (m : MethodEntry) :
    errorOf? (m.toMethod declared) =
      (PayloadEntry.fault types m.payload).or ((PayloadEntry.fault types m.result).or
        (m.routes.findSome? fun r => errorOf? (PathTemplate.check r.path))) := by
  rw [toMethod, ← PayloadEntry.errorOf?_toPayload hnames, ← PayloadEntry.errorOf?_toPayload hnames,
    ← errorOf?_forM]
  refine errorOf?_bind fun payload _ => errorOf?_bind fun result _ => ?_
  exact (errorOf?_bind fun _ _ => rfl).trans Option.or_none

/-- Of the methods declared so far only the names matter. -/
theorem MethodEntry.judged (service : String) (xs : List MethodEntry) :
    Building.Judges (MethodEntry.addTo declared) (MethodEntry.fault types service)
      (fun earlier made => made.name = service ∧
        made.methods.map (·.name) = earlier.map (·.name)) xs where
  error := by
    intro earlier made h m _
    obtain ⟨rfl, hmethods⟩ := h
    have htaken : (made.method? m.name).isSome = true ↔ ∃ n ∈ earlier, n.name = m.name :=
      isSome_find?_iff_of_map_eq hmethods m.name
    rw [addTo, errorOf?_guarded, errorOf?_map, errorOf?_toMethod hnames, fault]
    simp only [htaken]
  next := by
    intro earlier made made' h m _ hadd
    obtain ⟨-, method, hmethod, rfl⟩ := addTo_eq_ok_iff.1 hadd
    exact ⟨h.1, map_concat_eq h.2 (mirrored_of_toMethod hmethod).name⟩

end Methods

/-! ### Services -/

/-- An accepted service with those of its methods that are accepted. -/
def DesignFile.acceptedService (f : DesignFile) (s : ServiceEntry) : AcceptedService :=
  ⟨s, Verdict.accepted (f.methodVerdicts s)⟩

theorem Design.Has.map_name_services (h : d.Has schemes types services) :
    d.services.map (·.name) = services.map (·.service.name) :=
  map_eq_map_of_forall₂ (fun _ _ hmade => hmade.name) h.made

theorem Design.Has.isSome_service?_iff (h : d.Has schemes types services) (name : String) :
    (d.service? name).isSome = true ↔ ∃ a ∈ services, a.service.name = name :=
  isSome_find?_iff_of_map_eq h.map_name_services name

namespace ServiceProgress

variable {f : DesignFile} {p : ServiceProgress} {s : ServiceEntry}

/-- A service whose name is free goes in with its accepted methods, and the others leave their
errors. -/
theorem next_judge_of_new
    (h : p.builder.design.Has schemes (Verdict.accepted f.typeVerdicts) p.accepted)
    (hnew : ¬(p.builder.design.service? s.name).isSome = true) :
    (p.next s).builder.errors = p.builder.errors ++ Verdict.errors (f.methodVerdicts s) ∧
    (p.next s).accepted = p.accepted ++ [f.acceptedService s] ∧
    (p.next s).builder.design.Has schemes (Verdict.accepted f.typeVerdicts)
      (p.accepted ++ [f.acceptedService s]) := by
  have hstart : s.start.name = s.name ∧
      s.start.methods.map (·.name) = ([] : List MethodEntry).map (·.name) := ⟨rfl, rfl⟩
  obtain ⟨herrors, ⟨hname, hmethods⟩, haccepted⟩ :=
    Building.addAll_judge (MethodEntry.judged h.typeNames s.name s.methods)
      (b := ⟨s.start, p.builder.errors⟩) hstart
  rw [next_of_new hnew]
  refine ⟨herrors, ?_, h.registered, h.schemeNames, h.typeNames, ?_, ?_⟩
  · exact congrArg (fun methods => p.accepted ++ [⟨s, methods⟩]) haccepted
  · exact List.rel_append h.made (.cons ⟨hname, hmethods⟩ .nil)
  · refine nodup_map_concat _ h.serviceNames fun a ha htaken => hnew ?_
    exact (h.isSome_service?_iff s.name).2 ⟨a, ha, htaken⟩

/-- **The run over the services.**  Every service leaves the errors of its verdict, and goes in with
its accepted methods if it is accepted. -/
theorem foldl_next_judge (services : List ServiceEntry)
    (h : p.builder.design.Has schemes (Verdict.accepted f.typeVerdicts) p.accepted) :
    let verdicts := Verdict.judge ServiceEntry.fault (p.accepted.map (·.service)) services
    let last := services.foldl next p
    last.builder.errors = p.builder.errors ++ verdicts.flatMap f.serviceErrors ∧
    last.accepted = p.accepted ++ (Verdict.accepted verdicts).map f.acceptedService ∧
    last.builder.design.Has schemes (Verdict.accepted f.typeVerdicts) last.accepted := by
  induction services generalizing p with
  | nil => exact ⟨(List.append_nil _).symm, (List.append_nil _).symm, h⟩
  | cons s services ih =>
    have htaken : (p.builder.design.service? s.name).isSome = true ↔
        ∃ t ∈ p.accepted.map (·.service), t.name = s.name := by
      rw [h.isSome_service?_iff]
      simp only [List.mem_map, exists_exists_and_eq_and]
    rw [List.foldl_cons]
    by_cases hname : (p.builder.design.service? s.name).isSome = true
    · have hverdict : s.fault (p.accepted.map (·.service)) = some (.duplicateService s.name) :=
        if_pos (htaken.1 hname)
      have hnext := next_of_taken hname
      have hdesign : (p.next s).builder.design = p.builder.design := by rw [hnext]
      have haccepted : (p.next s).accepted = p.accepted := by rw [hnext]
      have herrors : (p.next s).builder.errors =
          p.builder.errors ++ [.duplicateService s.name] := by rw [hnext]
      obtain ⟨hallErrors, hallAccepted, hlast⟩ := ih (p := p.next s) (by rwa [hdesign, haccepted])
      rw [haccepted] at hallErrors hallAccepted
      rw [Verdict.judge_cons_of_some hverdict]
      dsimp only
      rw [List.flatMap_cons, Verdict.accepted_cons_some]
      refine ⟨?_, hallAccepted, hlast⟩
      rw [hallErrors, herrors, List.append_assoc]
      rfl
    · have hverdict : s.fault (p.accepted.map (·.service)) = none :=
        if_neg (htaken.not.1 hname)
      obtain ⟨herrors, haccepted, hhas⟩ := next_judge_of_new h hname
      obtain ⟨hallErrors, hallAccepted, hlast⟩ := ih (p := p.next s) (by rwa [haccepted])
      rw [haccepted, List.map_append] at hallErrors hallAccepted
      rw [Verdict.judge_cons_of_none hverdict]
      dsimp only
      rw [List.flatMap_cons, Verdict.accepted_cons_none, List.map_cons]
      refine ⟨?_, ?_, hlast⟩
      · rw [hallErrors, herrors, List.append_assoc]
        rfl
      · rw [hallAccepted, List.append_assoc]
        rfl

end ServiceProgress

end ApiDesign
