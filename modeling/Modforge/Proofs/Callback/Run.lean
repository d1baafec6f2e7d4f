import Mathlib.Data.List.Nodup
import Modforge.Proofs.Callback.Spec

/-!
# Callbacks are found in one pass

The pass keeps the first method of each role that fits, and the roles in which a second one was
met. Both are read off the declarations that were passed, so what is said of a role does not
depend on the declarations of other roles between them.
-/

namespace Modforge

theorem Method.check_eq (method : Method) (role : Role) (subject : String) :
    method.check role subject =
      ⟨method.fits role, (method.unmet role).map fun demand =>
        .structural subject (method.complaint role demand)⟩ := by
  rw [fits, unmet, ← Reported.all_require]
  unfold check
  rw [Reported.check_checkIdentifier]
  rfl

theorem Method.unmet_eq_nil_iff {method : Method} {role : Role} :
    method.unmet role = [] ↔ method.fits role = true := by
  simp [unmet, fits, List.filter_eq_nil_iff]

/-! ## Declarations of one role -/

def methodsIn (role : Role) (declared : List (Method × Role)) : List Method :=
  (declared.filter (·.2 == role)).map Prod.fst

theorem methodsIn_declared (c : Container) (role : Role) :
    methodsIn role (Callbacks.declared c) = c.declaredIn role := by
  unfold methodsIn Callbacks.declared Container.declaredIn
  rw [List.filter_flatMap, List.map_flatMap]
  congr 1
  funext method
  rw [List.filter_map, List.map_map]
  simp [List.count_eq_length_filter, List.map_const', Function.comp_def]

theorem methodsIn_concat_self (role : Role) (before : List (Method × Role)) (method : Method) :
    methodsIn role (before ++ [(method, role)]) = methodsIn role before ++ [method] := by
  simp [methodsIn]

theorem methodsIn_concat_of_ne {role other : Role} (h : role ≠ other)
    (before : List (Method × Role)) (method : Method) :
    methodsIn other (before ++ [(method, role)]) = methodsIn other before := by
  simp [methodsIn, h]

theorem perm_flatMap_of_one {α β : Type} {f f' : α → List β} {items : List α} {a : α}
    {more : List β} (hnodup : items.Nodup) (ha : a ∈ items) (hother : ∀ b, b ≠ a → f' b = f b)
    (hone : (f' a).Perm (f a ++ more)) : (items.flatMap f').Perm (items.flatMap f ++ more) := by
  obtain ⟨first, last, rfl⟩ := List.append_of_mem ha
  rw [List.nodup_middle, List.nodup_cons, List.mem_append, not_or] at hnodup
  have hsame {part : List α} (hpart : a ∉ part) : part.flatMap f' = part.flatMap f :=
    List.flatMap_congr fun b hb => hother b fun hab => hpart (hab ▸ hb)
  simp only [List.flatMap_append, List.flatMap_cons, hsame hnodup.1.1, hsame hnodup.1.2,
    List.append_assoc]
  apply List.Perm.append_left
  have hmore : ((f a ++ more) ++ last.flatMap f).Perm (f a ++ (last.flatMap f ++ more)) := by
    rw [List.append_assoc]
    exact List.perm_append_comm.append_left _
  exact (hone.append_right _).trans hmore

/-! ## One declaration -/

namespace Callbacks

variable {c : Container} {state : Callbacks × List Role} {before : List (Method × Role)}
  {method : Method} {role : Role}

/-- The state of the pass after the declarations `before`. -/
structure Follows (before : List (Method × Role)) (state : Callbacks × List Role) : Prop where
  called : ∀ role, state.1.get role = (role.fitting (methodsIn role before)).head?.map Method.name
  duplicated : ∀ role, role ∈ state.2 ↔ 2 ≤ (role.fitting (methodsIn role before)).length

theorem follows_start : Follows [] (none, []) := by
  constructor
  · intro role
    simp [methodsIn, Role.fitting]
  · intro role
    simp [methodsIn, Role.fitting]

theorem add_eq :
    add c state (method, role) =
      if method.fits role then
        match state.1.get role with
        | Option.none => ⟨(state.1.set role method.name, state.2), []⟩
        | some first =>
          ⟨(state.1, role :: state.2),
            duplicate c role first method.name (state.2.contains role)⟩
      else ⟨state, role.complaints c.methodSubject [method]⟩ := by
  by_cases hfits : method.fits role = true
  · have hunmet := Method.unmet_eq_nil_iff.2 hfits
    simp only [add, Method.check_eq, hfits, hunmet, bind, if_true]
    cases state.1.get role <;> rfl
  · simp [add, Method.check_eq, hfits, bind, pure, Role.complaints]

theorem fitting_concat (other : Role) :
    other.fitting (methodsIn other (before ++ [(method, role)])) =
      other.fitting (methodsIn other before) ++
        if role = other ∧ method.fits role then [method] else [] := by
  by_cases hrole : role = other
  · subst hrole
    rw [methodsIn_concat_self]
    by_cases hfits : method.fits role = true <;> simp [Role.fitting, hfits]
  · simp [methodsIn_concat_of_ne hrole, hrole]

theorem follows_add (h : Follows before state) :
    Follows (before ++ [(method, role)]) (add c state (method, role)).value := by
  rw [add_eq]
  by_cases hfits : method.fits role = true
  · have hcalled := h.called role
    rw [if_pos hfits]
    -- the first method that fits is called, and any further one makes the role a duplicated one
    cases hbefore : role.fitting (methodsIn role before) with
    | nil =>
      rw [hbefore] at hcalled
      simp only [hcalled, List.head?_nil, Option.map_none]
      constructor
      · intro other
        rw [get_set, fitting_concat, h.called]
        by_cases hother : role = other
        · subst hother
          simp [hbefore, hfits]
        · simp [hother, Ne.symm hother]
      · intro other
        rw [fitting_concat, h.duplicated]
        by_cases hother : role = other
        · subst hother
          simp [hbefore, hfits]
        · simp [hother]
    | cons first more =>
      rw [hbefore] at hcalled
      simp only [hcalled, List.head?_cons, Option.map_some]
      constructor
      · intro other
        rw [fitting_concat, h.called]
        by_cases hother : role = other
        · subst hother
          simp [hbefore]
        · simp [hother]
      · intro other
        rw [fitting_concat, List.mem_cons, h.duplicated]
        by_cases hother : role = other
        · subst hother
          simp [hbefore, hfits]
        · simp [hother, Ne.symm hother]
  · rw [if_neg hfits]
    constructor
    · intro other
      simp [fitting_concat, hfits, h.called]
    · intro other
      simp [fitting_concat, hfits, h.duplicated]

theorem duplicates_concat (subject : String → String) (first second : Method)
    (more : List Method) :
    role.duplicates subject (first :: second :: more ++ [method]) =
      role.duplicates subject (first :: second :: more) ++
        [.structural (subject method.name) ("duplicate " ++ role.describe ++
          " callback, already declared by " ++ first.name ++ "()")] := by
  simp [Role.duplicates]

theorem reports_add (h : Follows before state) :
    (role.reports c.methodSubject (methodsIn role (before ++ [(method, role)]))).Perm
      (role.reports c.methodSubject (methodsIn role before) ++
        (add c state (method, role)).reports) := by
  have hcomplaints : role.complaints c.methodSubject (methodsIn role before ++ [method]) =
      role.complaints c.methodSubject (methodsIn role before) ++
        role.complaints c.methodSubject [method] := List.flatMap_append
  have hfitting := @fitting_concat before method role role
  rw [methodsIn_concat_self] at hfitting ⊢
  rw [Role.reports, Role.reports, hfitting, hcomplaints, add_eq]
  by_cases hfits : method.fits role = true
  · have hquiet : role.complaints c.methodSubject [method] = [] := by
      simp [Role.complaints, Method.unmet_eq_nil_iff.2 hfits]
    have hcalled := h.called role
    have hduplicated := h.duplicated role
    simp only [hfits, hquiet, and_self, if_true, List.append_nil, List.append_assoc]
    apply List.Perm.append_left
    generalize role.fitting (methodsIn role before) = fitting at hcalled hduplicated
    rcases fitting with _ | ⟨first, _ | ⟨second, more⟩⟩
    · simp [hcalled, Role.duplicates]
    · have hnew : role ∉ state.2 := by simp [hduplicated]
      simp [hcalled, hnew, Role.duplicates, duplicate]
    · have hknown : role ∈ state.2 := by simp [hduplicated]
      rw [duplicates_concat]
      simp [hcalled, hknown, duplicate]
  · rw [if_neg (fun h => hfits h.2), if_neg hfits, List.append_nil, List.append_assoc,
      List.append_assoc]
    -- the complaints about the method go before what is said of duplicates
    exact List.perm_append_comm.append_left _

/-! ## The pass -/

def allReports (c : Container) (declared : List (Method × Role)) : List Diagnostic :=
  Role.all.flatMap fun role => role.reports c.methodSubject (methodsIn role declared)

theorem allReports_add (h : Follows before state) :
    (allReports c (before ++ [(method, role)])).Perm
      (allReports c before ++ (add c state (method, role)).reports) := by
  apply perm_flatMap_of_one (a := role) (by decide) (by cases role <;> decide)
  · intro other hother
    rw [methodsIn_concat_of_ne (Ne.symm hother)]
  · exact reports_add h

/-- The invariant of the pass: the state and the reports follow from what was passed. -/
theorem follows_foldlM (h : Follows before state) (rest : List (Method × Role)) :
    Follows (before ++ rest) (rest.foldlM (add c) state).value ∧
      (allReports c (before ++ rest)).Perm
        (allReports c before ++ (rest.foldlM (add c) state).reports) := by
  induction rest generalizing before state with
  | nil => simpa using h
  | cons declared rest ih =>
    obtain ⟨method, role⟩ := declared
    have hnext : Follows (before ++ [(method, role)]) (add c state (method, role)).value :=
      follows_add h
    obtain ⟨hstate, hreports⟩ := ih hnext
    rw [List.append_assoc, List.singleton_append] at hstate hreports
    rw [List.foldlM_cons, Reported.value_bind, Reported.reports_bind, ← List.append_assoc]
    exact ⟨hstate, hreports.trans ((allReports_add h).append_right _)⟩

end Callbacks

theorem length_duplicates (role : Role) (subject : String → String) (fitting : List Method) :
    (role.duplicates subject fitting).length =
      if fitting.length ≤ 1 then 0 else fitting.length := by
  rcases fitting with _ | ⟨first, _ | ⟨second, more⟩⟩ <;> simp [Role.duplicates]

/-- In each role the first method that fits is called. What is reported is, role by role, one
error for each demand that a method of the role does not meet, and one for each method that fits
if there are several. -/
theorem callbacks_found (c : Container) :
    let subject (method : String) : String := c.owner ++ "." ++ method ++ "()"
    (∀ role, (Callbacks.find c).value.get role =
      (role.fitting (c.declaredIn role)).head?.map Method.name) ∧
    (Callbacks.find c).reports.Perm
      (Role.all.flatMap fun role =>
        role.complaints subject (c.declaredIn role) ++
          role.duplicates subject (role.fitting (c.declaredIn role))) ∧
    ∀ role : Role, (role.duplicates subject (role.fitting (c.declaredIn role))).length =
      if (role.fitting (c.declaredIn role)).length ≤ 1 then 0
      else (role.fitting (c.declaredIn role)).length := by
  intro subject
  obtain ⟨hstate, hreports⟩ :=
    Callbacks.follows_foldlM (c := c) Callbacks.follows_start (Callbacks.declared c)
  have hstart : Callbacks.allReports c [] = [] := rfl
  rw [List.nil_append] at hstate hreports
  rw [hstart, List.nil_append] at hreports
  refine ⟨fun role => ?_, ?_, fun role => length_duplicates role _ _⟩
  · rw [← methodsIn_declared]
    exact hstate.called role
  · have hfind : (Callbacks.find c).reports =
        ((Callbacks.declared c).foldlM (Callbacks.add c) (Callbacks.none, [])).reports :=
      List.append_nil _
    simp only [← methodsIn_declared]
    rw [hfind]
    exact hreports.symm

end Modforge
