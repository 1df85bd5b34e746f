import ServiceLang.Outline.Index
import ServiceLang.Proofs.Keyed

namespace ServiceLang

/-!
# Looking names up in an outline

What the index answers, by the lists of the outline alone:

* `lookup_foldl_setKey`: of several values that are set for a key the last one counts;
* `getD_lookup_foldl_pushKey`: of several values that are added to a key all count, in order;
* `Index.function?_ofOutline`, `Index.class?_ofOutline`: the last declaration of a name;
* `Index.methodSites_ofOutline`, `Index.endpointsAt_ofOutline`: all declarations of a name;
* `IsLast`, `getLast?_filter_eq_some_iff`: what it is to be the last one;
* `Index.lookups_ofOutline`: the four look-ups, for every name.
-/

section Fold

variable {α β : Type} (name : α → String) (key : String)

/-- **The last one counts.** After setting the values of a list one by one, a key has the last
    value of its name, or else what it had before. -/
theorem lookup_foldl_setKey (as : List α) (entries : List (String × α)) :
    (as.foldl (fun entries a => setKey (name a) a entries) entries).lookup key =
      (as.filter (name · = key)).getLast?.or (entries.lookup key) := by
  induction as generalizing entries with
  | nil => simp
  | cons a as ih =>
    rw [List.foldl_cons, ih, lookup_setKey]
    by_cases h : name a = key
    · rw [if_pos h.symm, List.filter_cons_of_pos (by simpa using h), List.getLast?_cons]
      cases (as.filter (name · = key)).getLast? <;> rfl
    · rw [if_neg (Ne.symm h), List.filter_cons_of_neg (by simpa using h)]

/-- A value is put behind the others under its key. -/
theorem getD_lookup_pushKey (k : String) (b : β) (entries : List (String × List β)) :
    ((pushKey k b entries).lookup key).getD [] =
      (entries.lookup key).getD [] ++ if k = key then [b] else [] := by
  induction entries with
  | nil =>
    rw [pushKey, lookup_cons_eq_ite]
    by_cases h : key = k
    · simp [h]
    · simp [h, Ne.symm h]
  | cons entry entries ih =>
    rw [pushKey]
    by_cases hk : entry.1 = k
    · rw [if_pos hk, lookup_cons_eq_ite, lookup_cons_eq_ite, hk]
      by_cases h : key = k
      · simp [h]
      · simp [h, Ne.symm h]
    · rw [if_neg hk, lookup_cons_eq_ite, lookup_cons_eq_ite]
      by_cases h : key = entry.1
      · have hne : k ≠ key := fun heq => hk (h.symm.trans heq.symm)
        simp [h, h ▸ hne]
      · rw [if_neg h, if_neg h, ih]

/-- **All count.** After adding the values of a list one by one, the list of a key has grown by the
    values of its name, in order. -/
theorem getD_lookup_foldl_pushKey (value : α → β) (as : List α)
    (entries : List (String × List β)) :
    ((as.foldl (fun entries a => pushKey (name a) (value a) entries) entries).lookup key).getD [] =
      (entries.lookup key).getD [] ++ (as.filter (name · = key)).map value := by
  induction as generalizing entries with
  | nil => simp
  | cons a as ih =>
    rw [List.foldl_cons, ih, getD_lookup_pushKey, List.append_assoc]
    by_cases h : name a = key
    · rw [if_pos h, List.filter_cons_of_pos (by simpa using h)]
      rfl
    · rw [if_neg h, List.filter_cons_of_neg (by simpa using h)]
      rfl

end Fold

namespace Index

variable (outline : Outline) (word : String)

/-- Of several functions of a name the last one is found. -/
theorem function?_ofOutline :
    (ofOutline outline).function? word = (outline.functions.filter (·.name = word)).getLast? := by
  have h := lookup_foldl_setKey FunctionEntry.name word outline.functions []
  rw [List.lookup_nil, Option.or_none] at h
  exact h

/-- Adding classes sets their names one by one. -/
theorem classes_foldl_addClass (classes : List ClassEntry) (index : Index) :
    (classes.foldl addClass index).classes =
      classes.foldl (fun entries c => setKey c.name c entries) index.classes := by
  induction classes generalizing index with
  | nil => rfl
  | cons c classes ih => rw [List.foldl_cons, ih, List.foldl_cons, addClass]

/-- Of several classes of a name the last one is found. -/
theorem class?_ofOutline :
    (ofOutline outline).class? word = (outline.classes.filter (·.name = word)).getLast? := by
  have h := lookup_foldl_setKey ClassEntry.name word outline.classes []
  rw [List.lookup_nil, Option.or_none] at h
  rw [← h]
  exact congrArg (List.lookup word) (classes_foldl_addClass outline.classes {})

/-- The methods of a class, each with the name of the class. -/
def sites (c : ClassEntry) : List MethodSite := c.methods.map (⟨c.name, ·⟩)

/-- Adding classes adds their methods one by one. -/
theorem getD_lookup_methods_foldl_addClass (classes : List ClassEntry) (index : Index) :
    ((classes.foldl addClass index).methods.lookup word).getD [] =
      (index.methods.lookup word).getD [] ++
        (classes.flatMap sites).filter (·.method.name = word) := by
  induction classes generalizing index with
  | nil => simp
  | cons c classes ih =>
    rw [List.foldl_cons, ih, List.flatMap_cons, List.filter_append, addClass,
      getD_lookup_foldl_pushKey, List.append_assoc, sites, List.filter_map]
    rfl

/-- Methods are found in all classes. -/
theorem methodSites_ofOutline :
    (ofOutline outline).methodSites word =
      (outline.classes.flatMap sites).filter (·.method.name = word) :=
  getD_lookup_methods_foldl_addClass word outline.classes {}

/-- All endpoints for a path are found. -/
theorem endpointsAt_ofOutline :
    (ofOutline outline).endpointsAt word = outline.endpoints.filter (·.path = word) := by
  have h := getD_lookup_foldl_pushKey EndpointEntry.path word id outline.endpoints []
  rw [List.map_id] at h
  exact h

end Index

/-! ### Last declarations -/

section Last

variable {α : Type} {p : α → Prop} [DecidablePred p] {as : List α}

/-- The element is the last one of the list that has the property. -/
def IsLast (p : α → Prop) (as : List α) (a : α) : Prop :=
  p a ∧ ∃ before after, as = before ++ a :: after ∧ ∀ b ∈ after, ¬ p b

/-- The last element with a property. -/
theorem getLast?_filter_eq_some_iff {a : α} :
    (as.filter (p ·)).getLast? = some a ↔ IsLast p as a := by
  rw [List.getLast?_filter, List.find?_eq_some_iff_append]
  constructor
  · rintro ⟨ha, front, back, hsplit, hfront⟩
    -- what comes first in the reversed list comes last in the list
    refine ⟨of_decide_eq_true ha, back.reverse, front.reverse, ?_, fun b hb => ?_⟩
    · rw [← List.reverse_reverse as, hsplit]
      simp
    · simpa using hfront b (List.mem_reverse.mp hb)
  · rintro ⟨ha, before, after, rfl, hafter⟩
    refine ⟨decide_eq_true ha, after.reverse, before.reverse, by simp, fun b hb => ?_⟩
    simpa using hafter b (List.mem_reverse.mp hb)

theorem getLast?_filter_eq_none_iff :
    (as.filter (p ·)).getLast? = none ↔ ∀ a ∈ as, ¬ p a := by
  rw [List.getLast?_eq_none_iff, List.filter_eq_nil_iff]
  simp

end Last

namespace Index

/-- **Look-ups.** For every outline and every name, a function or a class is found exactly when one
    of the name is declared, and then the last one; the methods are those of the name, of every
    class in order and inside a class in order, each with the name of its class; and the endpoints
    are those of the path, in order. -/
theorem lookups_ofOutline (outline : Outline) :
    (∀ name,
      (∀ entry, (ofOutline outline).function? name = some entry ↔
        IsLast (·.name = name) outline.functions entry) ∧
      ((ofOutline outline).function? name = none ↔
        ∀ entry ∈ outline.functions, entry.name ≠ name)) ∧
    (∀ name,
      (∀ entry, (ofOutline outline).class? name = some entry ↔
        IsLast (·.name = name) outline.classes entry) ∧
      ((ofOutline outline).class? name = none ↔
        ∀ entry ∈ outline.classes, entry.name ≠ name)) ∧
    (∀ name, (ofOutline outline).methodSites name =
      outline.classes.flatMap fun c => (c.methods.filter (·.name = name)).map (⟨c.name, ·⟩)) ∧
    (∀ path, (ofOutline outline).endpointsAt path = outline.endpoints.filter (·.path = path)) := by
  refine ⟨fun name => ?_, fun name => ?_, fun name => ?_, endpointsAt_ofOutline outline⟩
  · rw [function?_ofOutline]
    exact ⟨fun entry => getLast?_filter_eq_some_iff, getLast?_filter_eq_none_iff⟩
  · rw [class?_ofOutline]
    exact ⟨fun entry => getLast?_filter_eq_some_iff, getLast?_filter_eq_none_iff⟩
  · rw [methodSites_ofOutline, List.filter_flatMap]
    refine congrArg (outline.classes.flatMap ·) (funext fun c => ?_)
    rw [sites, List.filter_map]
    rfl

/-- Of two classes that share a name the later one is found, and the methods of both. -/
example :
    let method : FunctionEntry := ⟨"run", "", 1, .between 2 9⟩
    let index := ofOutline
      { classes := [⟨"A", 0, .between 0 8, [method]⟩, ⟨"A", 2, .between 0 8, [method]⟩] }
    (index.class? "A").map (·.line) = some 2 ∧
      index.methodSites "run" = [⟨"A", method⟩, ⟨"A", method⟩] := by
  decide

end Index

end ServiceLang
