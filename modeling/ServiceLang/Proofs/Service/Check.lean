import Mathlib.Data.Finset.Card
import ServiceLang.Proofs.Indices
import ServiceLang.Service.Check

namespace ServiceLang

/-!
# Checks report exactly the repetitions

What a report has to say about a description, by the positions of its declarations:

* `Repeats key items i`, `Nearest key items i j`: an earlier declaration has the key of
  declaration `i`, and declaration `j` is the nearest such one;
* `IsDuplicate`, `IsWarning`, `IsServerWarning`: what a finding says;
* `IsReport service report`: each list of the report holds exactly the findings of its positions;
* `nearestLine?_cases`: looking back finds the nearest earlier declaration;
* `length_indices_repeats`: repetitions and different keys make up all keys;
* `exists_itemErrors`, `forall₂_itemWarnings`: what is found about one declaration;
* `Reported.step`, `reported_foldl`: a step of the pass, and the pass;
* `Service.check_eq_iff`: the checks give the report and no other.
-/

/-! ### Repetitions -/

section Keys

variable {κ : Type}

/-- The key of declaration `i`, if there is such a declaration and it has a key. -/
def keyAt (key : Item → Option κ) (items : List Item) (i : Nat) : Option κ := items[i]?.bind key

/-- The key of a declaration is found at its position. -/
theorem keyAt_of_getElem? {key : Item → Option κ} {items : List Item} {i : Nat} {item : Item}
    (h : items[i]? = some item) : keyAt key items i = key item := by
  rw [keyAt, h, Option.bind_some]

/-- An earlier declaration has the key of declaration `i`. -/
def Repeats (key : Item → Option κ) (items : List Item) (i : Nat) : Prop :=
  (keyAt key items i).isSome ∧ ∃ j < i, keyAt key items j = keyAt key items i

instance [DecidableEq κ] (key : Item → Option κ) (items : List Item) :
    DecidablePred (Repeats key items) := fun _ =>
  inferInstanceAs (Decidable (_ ∧ _))

/-- Declaration `j` is the nearest one before declaration `i` with the key of `i`. -/
structure Nearest (key : Item → Option κ) (items : List Item) (i j : Nat) : Prop where
  lt : j < i
  same : keyAt key items j = keyAt key items i
  nearest : ∀ k, j < k → k < i → keyAt key items k ≠ keyAt key items i

end Keys

/-! ### Findings -/

/-- The error about endpoint `i`: it names the line of the nearest earlier endpoint for the same
    method and path, and its own. -/
def IsDuplicate (items : List Item) (i : Nat) (finding : Finding) : Prop :=
  ∃ j e earlier, items[i]? = some (.endpoint e) ∧ items[j]? = some earlier ∧
    Nearest Item.route? items i j ∧ finding = .error
      s!"duplicate endpoint {e.method.name} {e.path} (lines {earlier.line} and {e.line})"

/-- What a warning about a declaration is for, in the order of the warnings about one. -/
inductive Concern where
  | shadowing
  | noMethods
  deriving DecidableEq

/-- Whether a declaration is a class without methods. -/
def Item.isBareClass : Item → Bool
  | .classDecl c => c.methods.isEmpty
  | _ => false

/-- Whether declaration `i` gives cause for a warning: it repeats the name of a function or of a
    class, or is a class without methods. -/
def Concern.Applies (items : List Item) (i : Nat) : Concern → Prop
  | .shadowing => Repeats Item.functionName? items i ∨ Repeats Item.className? items i
  | .noMethods => items[i]?.any Item.isBareClass = true

instance (items : List Item) (i : Nat) : DecidablePred (Concern.Applies items i)
  | .shadowing => inferInstanceAs (Decidable (_ ∨ _))
  | .noMethods => inferInstanceAs (Decidable (_ = true))

/-- The concerns that declaration `i` raises. -/
def concernsAt (items : List Item) (i : Nat) : List (Nat × Concern) :=
  ([.shadowing, .noMethods].filter (Concern.Applies items i ·)).map (i, ·)

/-- The warning about a concern of a declaration. -/
inductive IsWarning (items : List Item) : Nat × Concern → Finding → Prop where
  | function {i j : Nat} {f : Function} {earlier : Item} (hi : items[i]? = some (.function f))
      (hj : items[j]? = some earlier) (hnearest : Nearest Item.functionName? items i j) :
      IsWarning items (i, .shadowing) (.warning
        s!"function '{f.name}' on line {f.line} shadows the one on line {earlier.line}")
  | classDecl {i j : Nat} {c : ClassDecl} {earlier : Item} (hi : items[i]? = some (.classDecl c))
      (hj : items[j]? = some earlier) (hnearest : Nearest Item.className? items i j) :
      IsWarning items (i, .shadowing) (.warning
        s!"class '{c.name}' on line {c.line} shadows the one on line {earlier.line}")
  | noMethods {i : Nat} {c : ClassDecl} (hi : items[i]? = some (.classDecl c))
      (hmethods : c.methods = []) :
      IsWarning items (i, .noMethods) (.warning s!"class '{c.name}' declares no methods")

/-- The warnings about the servers of a description: none exactly when there is one server. -/
inductive IsServerWarning : List (Nat × Nat) → List Finding → Prop where
  | none : IsServerWarning [] [.warning "no server declaration"]
  | one (server : Nat × Nat) : IsServerWarning [server] []
  | several {servers : List (Nat × Nat)} {port line : Nat} (hseveral : 1 < servers.length)
      (hlast : servers.getLast? = some (port, line)) : IsServerWarning servers [.warning
        s!"multiple server declarations; port {port} from line {line} takes effect"]

/-- The report on a description: one error for each endpoint that repeats an earlier one, so as
    many as there are endpoints beyond the different ones; the warning about servers, and then one
    warning for each concern of each declaration, in order. -/
structure IsReport (service : Service) (report : Report) : Prop where
  errors : List.Forall₂ (IsDuplicate service.items)
    (indices (Repeats Item.route? service.items) service.items.length) report.errors
  count : report.errors.length + (service.items.filterMap Item.route?).toFinset.card =
    (service.items.filterMap Item.route?).length
  warnings : ∃ general special, report.warnings = general ++ special ∧
    IsServerWarning service.servers general ∧ List.Forall₂ (IsWarning service.items)
      ((List.range service.items.length).flatMap (concernsAt service.items)) special

/-! ### Looking back -/

section LookingBack

variable {κ : Type} {key : Item → Option κ} {items : List Item} {item : Item} {k : κ} {i j n : Nat}

/-- There is one nearest declaration. -/
theorem Nearest.unique {j' : Nat} (h : Nearest key items i j) (h' : Nearest key items i j') :
    j = j' := by
  rcases Nat.lt_trichotomy j j' with hlt | heq | hlt
  · exact absurd h'.same (h.nearest j' hlt h'.lt)
  · exact heq
  · exact absurd h.same (h'.nearest j hlt h.lt)

/-- A declaration without a key repeats none. -/
theorem not_repeats_of_key_eq_none (hi : items[i]? = some item) (hkey : key item = none) :
    ¬Repeats key items i := by
  rintro ⟨hsome, -⟩
  rw [keyAt_of_getElem? hi, hkey] at hsome
  contradiction

/-- A declaration repeats a key exactly when one before it has the key. -/
theorem repeats_iff_exists_mem (hi : items[i]? = some item) (hkey : key item = some k) :
    Repeats key items i ↔ ∃ earlier ∈ items.take i, key earlier = some k := by
  unfold Repeats
  rw [keyAt_of_getElem? hi, hkey]
  constructor
  · rintro ⟨-, j, hji, hsame⟩
    obtain ⟨earlier, hj, hsame⟩ := Option.bind_eq_some_iff.mp hsame
    refine ⟨earlier, List.mem_iff_getElem?.mpr ⟨j, ?_⟩, hsame⟩
    rw [List.getElem?_take_of_lt hji, hj]
  · rintro ⟨earlier, hmem, hsame⟩
    obtain ⟨j, hj⟩ := List.mem_iff_getElem?.mp hmem
    rw [List.getElem?_take] at hj
    split at hj
    · rename_i hji
      exact ⟨rfl, j, hji, (keyAt_of_getElem? hj).trans hsame⟩
    · contradiction

variable [DecidableEq κ]

/-- The line of the first declaration with a key. -/
def nearestLine? (key : Item → Option κ) (k : κ) (earlier : List Item) : Option Nat :=
  earlier.findSome? fun item => if key item = some k then some item.line else none

/-- One more declaration is nearer than all before it. -/
theorem nearestLine?_take_succ (hn : items[n]? = some item) :
    nearestLine? key k (items.take (n + 1)).reverse =
      if key item = some k then some item.line
      else nearestLine? key k (items.take n).reverse := by
  unfold nearestLine?
  rw [List.take_add_one, hn, Option.toList_some, List.reverse_append, List.reverse_singleton,
    List.singleton_append, List.findSome?_cons]
  split <;> simp_all

/-- The line found among the first `n` declarations is that of the last one with the key. -/
theorem exists_of_nearestLine?_take {line : Nat} (hn : n ≤ items.length)
    (h : nearestLine? key k (items.take n).reverse = some line) :
    ∃ j earlier, items[j]? = some earlier ∧ j < n ∧ keyAt key items j = some k ∧
      (∀ m, j < m → m < n → keyAt key items m ≠ some k) ∧ line = earlier.line := by
  induction n with
  | zero => simp [nearestLine?] at h
  | succ n ih =>
    obtain ⟨item, hitem⟩ : ∃ item, items[n]? = some item := ⟨_, List.getElem?_eq_getElem hn⟩
    have hkeyAt : keyAt key items n = key item := keyAt_of_getElem? hitem
    rw [nearestLine?_take_succ hitem] at h
    by_cases hkey : key item = some k
    · rw [if_pos hkey, Option.some.injEq] at h
      exact ⟨n, item, hitem, by omega, hkeyAt.trans hkey, fun m _ _ => by omega, h.symm⟩
    · -- declaration `n` has another key, so the search goes on before it
      rw [if_neg hkey] at h
      obtain ⟨j, earlier, hj, hlt, hsame, hnearest, hline⟩ := ih (by omega) h
      refine ⟨j, earlier, hj, by omega, hsame, fun m hjm hmn => ?_, hline⟩
      obtain hmn | rfl := Nat.lt_succ_iff_lt_or_eq.mp hmn
      · exact hnearest m hjm hmn
      · rwa [hkeyAt]

/-- **Looking back.** From a declaration with a new key nothing is found, and otherwise the nearest
    declaration with that key is. -/
theorem nearestLine?_cases (hi : items[i]? = some item) (hkey : key item = some k) :
    (¬Repeats key items i ∧ nearestLine? key k (items.take i).reverse = none) ∨
      ∃ j earlier, Repeats key items i ∧ items[j]? = some earlier ∧ Nearest key items i j ∧
        nearestLine? key k (items.take i).reverse = some earlier.line := by
  have hkeyAt : keyAt key items i = some k := (keyAt_of_getElem? hi).trans hkey
  have hsome : (nearestLine? key k (items.take i).reverse).isSome ↔ Repeats key items i := by
    rw [repeats_iff_exists_mem hi hkey, nearestLine?, List.findSome?_isSome_iff]
    simp [Option.isSome_ite]
  cases hline : nearestLine? key k (items.take i).reverse with
  | none =>
    rw [hline] at hsome
    exact Or.inl ⟨by simp [← hsome], rfl⟩
  | some line =>
    rw [hline] at hsome
    have hle : i ≤ items.length := (List.getElem?_eq_some_iff.mp hi).1.le
    obtain ⟨j, earlier, hj, hji, hsame, hnearest, rfl⟩ := exists_of_nearestLine?_take hle hline
    rw [← hkeyAt] at hsame hnearest
    exact Or.inr ⟨j, earlier, hsome.mp rfl, hj, ⟨hji, hsame, hnearest⟩, rfl⟩

/-- **Counting.** Each key is repeated or the first of its kind, so the repetitions and the
    different keys make up all keys. -/
theorem length_indices_repeats (key : Item → Option κ) (items : List Item) (hn : n ≤ items.length) :
    (indices (Repeats key items) n).length + ((items.take n).filterMap key).toFinset.card =
      ((items.take n).filterMap key).length := by
  induction n with
  | zero => rfl
  | succ n ih =>
    obtain ⟨item, hitem⟩ : ∃ item, items[n]? = some item := ⟨_, List.getElem?_eq_getElem hn⟩
    have ih := ih (by omega)
    rw [List.take_add_one, hitem, Option.toList_some, List.filterMap_append]
    cases hkey : key item with
    | none =>
      rw [indices_succ_of_neg (not_repeats_of_key_eq_none hitem hkey)]
      simpa [hkey] using ih
    | some k =>
      have hmem : Repeats key items n ↔ k ∈ ((items.take n).filterMap key).toFinset := by
        rw [repeats_iff_exists_mem hitem hkey, List.mem_toFinset, List.mem_filterMap]
      have hkeys : ((items.take n).filterMap key ++ [item].filterMap key).toFinset =
          insert k ((items.take n).filterMap key).toFinset := by
        ext k'
        simp [hkey]
      have hlength : ((items.take n).filterMap key ++ [item].filterMap key).length =
          ((items.take n).filterMap key).length + 1 := by
        simp [hkey]
      rw [hkeys, hlength]
      -- a repetition adds to the first count, and a new key to the second
      by_cases hrepeats : Repeats key items n
      · rw [indices_succ_of_pos hrepeats, List.length_append, List.length_singleton,
          Finset.insert_eq_of_mem (hmem.mp hrepeats)]
        omega
      · rw [indices_succ_of_neg hrepeats, Finset.card_insert_of_notMem (mt hmem.mpr hrepeats)]
        omega

end LookingBack

/-! ### One declaration -/

/-- For each kind of key, what was recorded is the line of the nearest of the first `n`
    declarations. -/
structure Seen.Records (seen : Seen) (items : List Item) (n : Nat) : Prop where
  routes : ∀ k, seen.routes k = nearestLine? Item.route? k (items.take n).reverse
  functions : ∀ k, seen.functions k = nearestLine? Item.functionName? k (items.take n).reverse
  classes : ∀ k, seen.classes k = nearestLine? Item.className? k (items.take n).reverse

/-- Recording a declaration makes it the nearest one with its keys. -/
theorem Seen.Records.note {seen : Seen} {items : List Item} {n : Nat} {item : Item}
    (h : seen.Records items n) (hn : items[n]? = some item) :
    (seen.note item).Records items (n + 1) where
  routes k := by rw [nearestLine?_take_succ hn, ← h.routes]; rfl
  functions k := by rw [nearestLine?_take_succ hn, ← h.functions]; rfl
  classes k := by rw [nearestLine?_take_succ hn, ← h.classes]; rfl

/-- **Errors.** An endpoint has its error when it repeats an earlier one. -/
theorem exists_itemErrors {items : List Item} {n : Nat} {item : Item} {seen : Seen}
    (hseen : seen.Records items n) (hn : items[n]? = some item) :
    ∃ new, indices (Repeats Item.route? items) (n + 1) =
        indices (Repeats Item.route? items) n ++ new ∧
      List.Forall₂ (IsDuplicate items) new (itemErrors seen item) := by
  cases item with
  | endpoint e =>
    have hkey : Item.route? (.endpoint e) = some (e.method, e.path) := rfl
    rw [itemErrors, hseen.routes]
    obtain ⟨hnew, hline⟩ | ⟨j, earlier, hrepeats, hj, hnearest, hline⟩ :=
      nearestLine?_cases hn hkey
    · rw [hline, indices_succ_of_neg hnew]
      exact ⟨[], (List.append_nil _).symm, .nil⟩
    · rw [hline, indices_succ_of_pos hrepeats]
      exact ⟨[n], rfl, .cons ⟨j, e, earlier, hn, hj, hnearest, rfl⟩ .nil⟩
  | _ =>
    rw [indices_succ_of_neg (not_repeats_of_key_eq_none hn rfl)]
    exact ⟨[], (List.append_nil _).symm, .nil⟩

/-- The concerns of a declaration, one after the other. -/
theorem concernsAt_eq (items : List Item) (i : Nat) :
    concernsAt items i =
      (if Concern.shadowing.Applies items i then [(i, Concern.shadowing)] else []) ++
        if Concern.noMethods.Applies items i then [(i, Concern.noMethods)] else [] := by
  unfold concernsAt
  rw [List.filter_cons, List.filter_cons, List.filter_nil]
  split <;> split <;> simp_all

/-- **Warnings.** A declaration has a warning for each of its concerns. -/
theorem forall₂_itemWarnings {items : List Item} {n : Nat} {item : Item} {seen : Seen}
    (hseen : seen.Records items n) (hn : items[n]? = some item) :
    List.Forall₂ (IsWarning items) (concernsAt items n) (itemWarnings seen item) := by
  have hshadowing : Concern.shadowing.Applies items n ↔
      Repeats Item.functionName? items n ∨ Repeats Item.className? items n := Iff.rfl
  have hbare : Concern.noMethods.Applies items n ↔ item.isBareClass = true := by
    simp [Concern.Applies, hn]
  simp only [concernsAt_eq, hshadowing, hbare]
  -- A function repeats no class and a class no function, so one of the two notes decides.
  cases item with
  | function f =>
    have hkey : Item.functionName? (.function f) = some f.name := rfl
    have hclass : ¬Repeats Item.className? items n := not_repeats_of_key_eq_none hn rfl
    rw [itemWarnings, hseen.functions]
    obtain ⟨hnew, hline⟩ | ⟨j, earlier, hrepeats, hj, hnearest, hline⟩ :=
      nearestLine?_cases hn hkey
    · rw [hline, if_neg (not_or.mpr ⟨hnew, hclass⟩)]
      exact .nil
    · rw [hline, if_pos (Or.inl hrepeats)]
      exact .cons (.function hn hj hnearest) .nil
  | classDecl c =>
    have hkey : Item.className? (.classDecl c) = some c.name := rfl
    have hfunction : ¬Repeats Item.functionName? items n := not_repeats_of_key_eq_none hn rfl
    rw [itemWarnings, hseen.classes]
    apply List.rel_append
    · obtain ⟨hnew, hline⟩ | ⟨j, earlier, hrepeats, hj, hnearest, hline⟩ :=
        nearestLine?_cases hn hkey
      · rw [hline, if_neg (not_or.mpr ⟨hfunction, hnew⟩)]
        exact .nil
      · rw [hline, if_pos (Or.inr hrepeats)]
        exact .cons (.classDecl hn hj hnearest) .nil
    · simp only [Item.isBareClass, List.isEmpty_iff]
      split
      · rename_i hmethods
        exact .cons (.noMethods hn hmethods) .nil
      · exact .nil
  | _ =>
    have hfunction : ¬Repeats Item.functionName? items n := not_repeats_of_key_eq_none hn rfl
    have hclass : ¬Repeats Item.className? items n := not_repeats_of_key_eq_none hn rfl
    rw [if_neg (not_or.mpr ⟨hfunction, hclass⟩)]
    exact .nil

/-! ### Reports -/

/-- The warning about servers names the last of several, and is missing when there is one. -/
theorem isServerWarning_serverWarnings (servers : List (Nat × Nat)) :
    IsServerWarning servers (serverWarnings servers) := by
  match servers with
  | [] => exact .none
  | [server] => exact .one server
  | first :: second :: rest =>
    apply IsServerWarning.several (by simp)
    rw [List.getLast?_cons_cons, List.getLast?_eq_some_getLast (by simp)]

/-- There is one way to warn about servers. -/
theorem IsServerWarning.unique {servers : List (Nat × Nat)} {findings findings' : List Finding}
    (h : IsServerWarning servers findings) (h' : IsServerWarning servers findings') :
    findings = findings' := by
  cases h with
  | none =>
    cases h' with
    | none => rfl
    | several hseveral => simp at hseveral
  | one server =>
    cases h' with
    | one => rfl
    | several hseveral => simp at hseveral
  | several hseveral hlast =>
    cases h' with
    | none => simp at hseveral
    | one => simp at hseveral
    | several _ hlast' =>
      obtain ⟨rfl, rfl⟩ := Prod.mk.inj (Option.some.inj (hlast.symm.trans hlast'))
      rfl

/-- There is one error for a repeated endpoint. -/
theorem rightUnique_isDuplicate (items : List Item) : Relator.RightUnique (IsDuplicate items) := by
  rintro i _ _ ⟨j, e, earlier, hi, hj, hnearest, rfl⟩ ⟨j', e', earlier', hi', hj', hnearest', rfl⟩
  obtain rfl := hnearest.unique hnearest'
  obtain rfl := Item.endpoint.inj (Option.some.inj (hi.symm.trans hi'))
  obtain rfl := Option.some.inj (hj.symm.trans hj')
  rfl

/-- There is one warning for a concern. -/
theorem rightUnique_isWarning (items : List Item) : Relator.RightUnique (IsWarning items) := by
  intro site finding finding' h h'
  cases h with
  | function hi hj hnearest =>
    cases h' with
    | function hi' hj' hnearest' =>
      obtain rfl := hnearest.unique hnearest'
      obtain rfl := Item.function.inj (Option.some.inj (hi.symm.trans hi'))
      obtain rfl := Option.some.inj (hj.symm.trans hj')
      rfl
    | classDecl hi' => cases hi.symm.trans hi'
  | classDecl hi hj hnearest =>
    cases h' with
    | function hi' => cases hi.symm.trans hi'
    | classDecl hi' hj' hnearest' =>
      obtain rfl := hnearest.unique hnearest'
      obtain rfl := Item.classDecl.inj (Option.some.inj (hi.symm.trans hi'))
      obtain rfl := Option.some.inj (hj.symm.trans hj')
      rfl
  | noMethods hi =>
    cases h' with
    | noMethods hi' =>
      obtain rfl := Item.classDecl.inj (Option.some.inj (hi.symm.trans hi'))
      rfl

/-- The state of the pass over a description behind its first `n` declarations. -/
structure Reported (service : Service) (n : Nat) (state : Report × Seen) : Prop where
  seen : state.2.Records service.items n
  errors : List.Forall₂ (IsDuplicate service.items)
    (indices (Repeats Item.route? service.items) n) state.1.errors
  warnings : ∃ special, state.1.warnings = serverWarnings service.servers ++ special ∧
    List.Forall₂ (IsWarning service.items)
      ((List.range n).flatMap (concernsAt service.items)) special

/-- One step of the pass. -/
theorem Reported.step {service : Service} {n : Nat} {state : Report × Seen} {item : Item}
    (h : Reported service n state) (hn : service.items[n]? = some item) :
    Reported service (n + 1) (visit state item) := by
  obtain ⟨special, hwarnings, hspecial⟩ := h.warnings
  refine ⟨h.seen.note hn, ?_, special ++ itemWarnings state.2 item, ?_, ?_⟩
  · obtain ⟨new, hnew, herrors⟩ := exists_itemErrors h.seen hn
    rw [hnew]
    exact List.rel_append h.errors herrors
  · show state.1.warnings ++ _ = _
    rw [hwarnings, List.append_assoc]
  · rw [List.range_succ, List.flatMap_append, List.flatMap_singleton]
    exact List.rel_append hspecial (forall₂_itemWarnings h.seen hn)

/-- **The pass.** Behind any number of declarations the state is what they call for. -/
theorem reported_foldl (service : Service) {n : Nat} (hn : n ≤ service.items.length) :
    Reported service n
      ((service.items.take n).foldl visit (⟨[], serverWarnings service.servers⟩, {})) := by
  induction n with
  | zero =>
    have hseen : Seen.Records {} service.items 0 := ⟨fun _ => rfl, fun _ => rfl, fun _ => rfl⟩
    exact ⟨hseen, .nil, [], (List.append_nil _).symm, .nil⟩
  | succ n ih =>
    obtain ⟨item, hitem⟩ : ∃ item, service.items[n]? = some item :=
      ⟨_, List.getElem?_eq_getElem hn⟩
    rw [List.take_add_one, hitem, Option.toList_some, List.foldl_concat]
    exact (ih (by omega)).step hitem

/-- The checks give the report on a description. -/
theorem Service.isReport_check (service : Service) : IsReport service service.check := by
  have hpass := reported_foldl service (Nat.le_refl _)
  have hcount := length_indices_repeats Item.route? service.items (Nat.le_refl _)
  rw [List.take_length] at hpass hcount
  obtain ⟨special, hwarnings, hspecial⟩ := hpass.warnings
  refine ⟨hpass.errors, ?_, _, special, hwarnings, isServerWarning_serverWarnings service.servers,
    hspecial⟩
  rw [← hcount, hpass.errors.length_eq]
  rfl

/-- A description has one report. -/
theorem IsReport.unique {service : Service} {report report' : Report}
    (h : IsReport service report) (h' : IsReport service report') : report = report' := by
  obtain ⟨errors, warnings⟩ := report
  obtain ⟨errors', warnings'⟩ := report'
  obtain ⟨general, special, hsplit, hgeneral, hspecial⟩ := h.warnings
  obtain ⟨general', special', hsplit', hgeneral', hspecial'⟩ := h'.warnings
  obtain rfl : errors = errors' :=
    (rightUnique_isDuplicate service.items).forall₂ h.errors h'.errors
  obtain rfl := hgeneral.unique hgeneral'
  obtain rfl := (rightUnique_isWarning service.items).forall₂ hspecial hspecial'
  obtain rfl : warnings = warnings' := hsplit.trans hsplit'.symm
  rfl

/-- **Checks report exactly the repetitions.** The errors are one for each endpoint whose method and
    path an earlier endpoint has, in order, with the line of the nearest such endpoint and its own;
    so they are as many as there are endpoints less the different routes. The warnings are the one
    about servers, unless there is exactly one server, and then in order one for each function or
    class whose name an earlier one has, with the line of the nearest such one, and one for each
    class without methods. -/
theorem Service.check_eq_iff (service : Service) (report : Report) :
    service.check = report ↔ IsReport service report := by
  have hcheck := service.isReport_check
  constructor
  · rintro rfl
    exact hcheck
  · exact hcheck.unique

end ServiceLang
