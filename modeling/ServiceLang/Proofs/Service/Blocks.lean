import ServiceLang.Service.Parse

namespace ServiceLang

/-!
# A description as a list of blocks

The lines of a text can be cut into blocks first, and each block be read on its own. This gives what
reading them in one pass gives.

* `clusters`: a list cut before each of its heads;
* `methodsOf`, `Item.ofBlock`: a class and any declaration, made of a head line and the lines that it
  owns;
* `Service.ofLines`: all blocks;
* `Pending.foldlM_classDecl`, `Draft.foldlM_take_eq`: the pass over the members of a class, and over
  all blocks;
* `Service.parse_eq`: the pass over a text.
-/

/-! ### Blocks -/

/-- A list cut before each head: what stands before the first head, then each head with what
    follows it up to the next one. -/
def clusters {α : Type} (isHead : α → Bool) : List α → List α × List (α × List α)
  | [] => ([], [])
  | a :: rest =>
    let (lead, tail) := clusters isHead rest
    if isHead a then ([], (a, lead) :: tail) else (a :: lead, tail)

/-- A body: the text behind the colon, when there is some, then the lines below. -/
def bodyOf (inline : List Char) (below : List SourceLine) : List String :=
  ((if inline = [] then [] else [inline]) ++ below.map (·.content)).map String.ofList

/-- The function made of a signature, the lines below it and its own line. -/
def Function.ofSignature (signature : Signature) (below : List SourceLine) (line : Nat) :
    Function where
  name := String.ofList signature.name
  params := signature.params.map String.ofList
  body := bodyOf signature.inline below
  line := line

/-- The method made of a member line and the deeper lines below it. A member line that is
    indented less than the first one belongs nowhere. -/
def methodOf (memberIndent : Nat) (head : SourceLine) (below : List SourceLine) :
    Except SyntaxError Function :=
  atLine head.number <|
    if head.indent < memberIndent then .error .unexpectedIndent
    else (Function.ofSignature · below head.number) <$> readMember head.content

/-- The methods of a class, made of the lines it owns. -/
def methodsOf : List SourceLine → Except SyntaxError (List Function)
  | [] => .ok []
  | first :: rest =>
    ((clusters (·.indent ≤ first.indent) (first :: rest)).2).mapM fun (head, below) =>
      methodOf first.indent head below

/-- The declaration made of a head line and the indented lines below it. -/
def Item.ofBlock (head : SourceLine) (below : List SourceLine) : Except SyntaxError Item := do
  match ← atLine head.number (readHead head.content) with
  | .server port =>
    match below with
    | [] => return .server port head.number
    | line :: _ => throw ⟨line.number, .unexpectedIndent⟩
  | .endpoint method path inline =>
    match bodyOf inline below with
    | [] => throw ⟨head.number, .missingBody .endpoint⟩
    | body => return .endpoint ⟨method, String.ofList path, body, head.number⟩
  | .function signature =>
    let decl := Function.ofSignature signature below head.number
    if decl.body = [] then throw ⟨head.number, .missingBody .function⟩
    return .function decl
  | .classDecl name =>
    let methods ← methodsOf below
    match methods.find? (·.body = []) with
    | some method => throw ⟨method.line, .missingBody .method⟩
    | none => return .classDecl ⟨String.ofList name, methods, head.number⟩

/-- The description made of significant lines. -/
def Service.ofLines (lines : List SourceLine) : Except SyntaxError Service :=
  match clusters (·.indent = 0) lines with
  | (line :: _, _) => .error ⟨line.number, .unexpectedIndent⟩
  | ([], blocks) => Service.mk <$> blocks.mapM fun (head, below) => Item.ofBlock head below

/-! ### One block -/

/-- The function with the lines below it in its body. -/
def Function.withLines (decl : Function) (below : List SourceLine) : Function :=
  { decl with body := decl.body ++ below.map fun line => String.ofList line.content }

/-- The lines below go behind the text that the head line gives. -/
theorem inlineBody_append (inline : List Char) (below : List SourceLine) :
    (inlineBody inline ++ below.map fun line => String.ofList line.content) =
      bodyOf inline below := by
  unfold inlineBody bodyOf
  split <;> simp

/-- A function that is opened and gets the lines below it is made of both. -/
theorem Function.withLines_opened (signature : Signature) (below : List SourceLine) (line : Nat) :
    (Function.opened signature line).withLines below = .ofSignature signature below line := by
  simp only [withLines, opened, ofSignature, inlineBody_append]

/-- Only the last function gets the line. -/
theorem addToLast_concat (text : String) (methods : List Function) (last : Function) :
    addToLast text (methods ++ [last]) = methods ++ [{ last with body := last.body ++ [text] }] := by
  induction methods with
  | nil => rfl
  | cons first rest ih =>
    cases rest with
    | nil => rfl
    | cons second rest => exact congrArg (first :: ·) ih

/-- Cutting a list that begins with a head. -/
theorem clusters_cons_of_pos {α : Type} {isHead : α → Bool} {a : α} (h : isHead a = true)
    (rest : List α) :
    clusters isHead (a :: rest) = ([], (a, (clusters isHead rest).1) :: (clusters isHead rest).2) := by
  simp [clusters, h]

/-- Cutting a list that does not begin with a head. -/
theorem clusters_cons_of_neg {α : Type} {isHead : α → Bool} {a : α} (h : isHead a = false)
    (rest : List α) :
    clusters isHead (a :: rest) = (a :: (clusters isHead rest).1, (clusters isHead rest).2) := by
  simp [clusters, h]

namespace Pending

/-- The declaration made of all lines below it. -/
def close (pending : Pending) (below : List SourceLine) : Except SyntaxError Item :=
  below.foldlM take pending >>= finish

/-- A declaration that takes each line into its body has all lines below it there. -/
theorem foldlM_body (make : List String → Pending)
    (hmake : ∀ body line, (make body).take line = .ok (make (body ++ [String.ofList line.content])))
    (body : List String) (below : List SourceLine) :
    below.foldlM take (make body) =
      .ok (make (body ++ below.map fun line => String.ofList line.content)) := by
  induction below generalizing body with
  | nil => simp [pure, Except.pure]
  | cons line below ih =>
    rw [List.foldlM_cons, hmake]
    show below.foldlM take (make (body ++ [String.ofList line.content])) = _
    rw [ih, List.append_assoc]
    rfl

/-- A line at the indentation of the members, or the first line of all, begins a member. -/
theorem take_member (decl : ClassDecl) {memberIndent : Option Nat} {line : SourceLine}
    (h : memberIndent.getD line.indent = line.indent) :
    take (classDecl decl memberIndent) line =
      atLine line.number (readMember line.content) >>= fun signature => .ok (classDecl
        ⟨decl.name, decl.methods ++ [.opened signature line.number], decl.line⟩
        (some line.indent)) := by
  simp [take, h, pure, Except.pure]

/-- **Members.** Behind the first member of a class, lines that are deeper than it go to the last
    member so far, and each group of other lines is read as a method. -/
theorem foldlM_classDecl (name : String) (number indent : Nat) (methods : List Function)
    (last : Function) (lines : List SourceLine) :
    lines.foldlM take (classDecl ⟨name, methods ++ [last], number⟩ (some indent)) =
      ((clusters (·.indent ≤ indent) lines).2.mapM fun group => methodOf indent group.1 group.2)
        >>= fun rest => .ok (classDecl ⟨name, methods ++
          last.withLines (clusters (·.indent ≤ indent) lines).1 :: rest, number⟩ (some indent)) := by
  induction lines generalizing methods last with
  | nil => simp [clusters, Function.withLines, pure, Except.pure, bind, Except.bind]
  | cons line lines ih =>
    rw [List.foldlM_cons]
    rcases Nat.lt_trichotomy line.indent indent with hlt | heq | hgt
    · -- the line belongs nowhere
      have htake : take (classDecl ⟨name, methods ++ [last], number⟩ (some indent)) line =
          .error ⟨line.number, .unexpectedIndent⟩ := by
        simp [take, Nat.ne_of_lt hlt, Nat.not_lt.mpr (Nat.le_of_lt hlt)]
      rw [htake, clusters_cons_of_pos (by simpa using Nat.le_of_lt hlt), List.mapM_cons, methodOf,
        if_pos hlt]
      rfl
    · -- the line is the head of the next member
      subst heq
      rw [take_member _ rfl, clusters_cons_of_pos (by simp), List.mapM_cons, methodOf,
        if_neg (Nat.lt_irrefl _)]
      cases readMember line.content with
      | error fault => rfl
      | ok signature =>
        show lines.foldlM take (classDecl
          ⟨name, methods ++ [last] ++ [.opened signature line.number], number⟩
          (some line.indent)) = _
        rw [ih, Function.withLines_opened]
        cases (clusters (·.indent ≤ line.indent) lines).2.mapM fun group =>
          methodOf line.indent group.1 group.2 with
        | error e => rfl
        | ok rest => simp [Functor.map, Except.map, atLine, bind, Except.bind, pure, Except.pure,
            Function.withLines]
    · -- the line goes to the last member
      have htake : take (classDecl ⟨name, methods ++ [last], number⟩ (some indent)) line =
          .ok (classDecl ⟨name, methods ++
            [{ last with body := last.body ++ [String.ofList line.content] }], number⟩
            (some indent)) := by
        simp [take, Nat.ne_of_gt hgt, hgt, addToLast_concat]
      rw [htake, clusters_cons_of_neg (by simpa using hgt)]
      show lines.foldlM take (classDecl ⟨name, methods ++
        [{ last with body := last.body ++ [String.ofList line.content] }], number⟩
        (some indent)) = _
      rw [ih]
      simp [Function.withLines]

/-- The lines below a class are its methods. -/
theorem foldlM_classDecl_nil (name : String) (number : Nat) (below : List SourceLine) :
    ∃ memberIndent, below.foldlM take (classDecl ⟨name, [], number⟩ none) =
      methodsOf below >>= fun methods => .ok (classDecl ⟨name, methods, number⟩ memberIndent) := by
  cases below with
  | nil => exact ⟨none, rfl⟩
  | cons first rest =>
    refine ⟨some first.indent, ?_⟩
    have hmethods : methodsOf (first :: rest) =
        (clusters (·.indent ≤ first.indent) (first :: rest)).2.mapM fun group =>
          methodOf first.indent group.1 group.2 := rfl
    rw [List.foldlM_cons, take_member _ rfl, hmethods, clusters_cons_of_pos (by simp),
      List.mapM_cons, methodOf, if_neg (Nat.lt_irrefl _)]
    cases readMember first.content with
    | error fault => rfl
    | ok signature =>
      show rest.foldlM take (classDecl ⟨name, [] ++ [.opened signature first.number], number⟩
        (some first.indent)) = _
      rw [foldlM_classDecl, Function.withLines_opened]
      cases (clusters (·.indent ≤ first.indent) rest).2.mapM fun group =>
        methodOf first.indent group.1 group.2 <;> rfl

end Pending

/-! ### All blocks -/

namespace Draft

/-- The declarations, the last one with more lines of its block. Without a pending declaration there
    is no block that the lines belong to. -/
def complete (draft : Draft) (below : List SourceLine) : Except SyntaxError (List Item) :=
  match draft.pending, below with
  | some pending, _ => pending.close below >>= fun item => .ok (draft.items ++ [item])
  | none, [] => .ok draft.items
  | none, line :: _ => .error ⟨line.number, .unexpectedIndent⟩

/-- No more lines: the pending declaration is at the end of its block. -/
theorem complete_nil (draft : Draft) : draft.complete [] = draft.finish := by
  obtain ⟨items, _ | pending⟩ := draft <;> rfl

/-- An indented line is the first of the lines that are left of the block. -/
theorem take_complete {line : SourceLine} (hline : line.indent ≠ 0) (draft : Draft)
    (below : List SourceLine) :
    (draft.take line >>= fun draft => draft.complete below) = draft.complete (line :: below) := by
  rw [take, if_neg hline]
  obtain ⟨items, _ | pending⟩ := draft
  · rfl
  · show _ = (line :: below).foldlM Pending.take pending >>= Pending.finish >>= _
    rw [List.foldlM_cons]
    cases hpending : pending.take line with
    | error e => simp [hpending, bind, Except.bind]
    | ok next => simp [hpending, bind, Except.bind, complete, Pending.close, pure, Except.pure]

/-- A head line with the lines below it makes one more declaration. -/
theorem declare_complete (items : List Item) (head : SourceLine) (below : List SourceLine) :
    (declare items head >>= fun draft => draft.complete below) =
      Item.ofBlock head below >>= fun item => .ok (items ++ [item]) := by
  rw [declare, Item.ofBlock]
  cases atLine head.number (readHead head.content) with
  | error e => rfl
  | ok decl =>
    cases decl with
    | server port =>
      -- a server is complete at once, so any line below it belongs nowhere
      cases below <;> rfl
    | endpoint method path inline =>
      show (below.foldlM Pending.take (.endpoint ⟨method, String.ofList path, inlineBody inline,
        head.number⟩) >>= Pending.finish >>= _) = _
      rw [Pending.foldlM_body (fun body => .endpoint ⟨method, String.ofList path, body,
        head.number⟩) (fun _ _ => rfl), inlineBody_append]
      simp only [bind, Except.bind, Pending.finish]
      cases bodyOf inline below <;> rfl
    | function signature =>
      show (below.foldlM Pending.take (.function (.opened signature head.number)) >>=
        Pending.finish >>= _) = _
      rw [Pending.foldlM_body (fun body => .function { Function.opened signature head.number with
        body }) (fun _ _ => rfl)]
      show (Pending.finish (.function
        ((Function.opened signature head.number).withLines below)) >>= _) = _
      rw [Function.withLines_opened]
      show ((if (Function.ofSignature signature below head.number).body = [] then _ else _) >>= _) =
        (if _ then _ else _) >>= _
      split <;> rfl
    | classDecl name =>
      obtain ⟨memberIndent, hfold⟩ :=
        Pending.foldlM_classDecl_nil (String.ofList name) head.number below
      show (below.foldlM Pending.take (.classDecl ⟨String.ofList name, [], head.number⟩ none) >>=
        Pending.finish >>= _) = _
      rw [hfold]
      cases methodsOf below with
      | error e => rfl
      | ok methods =>
        simp only [bind, Except.bind, Pending.finish]
        cases methods.find? (·.body = []) <;> rfl

/-- **One pass reads all blocks.** The lines before the first head complete the pending
    declaration, and each block behind them adds one. -/
theorem foldlM_take_eq (draft : Draft) (lines : List SourceLine) :
    (lines.foldlM take draft >>= finish) =
      (draft.complete (clusters (·.indent = 0) lines).1 >>= fun items =>
        ((clusters (·.indent = 0) lines).2.mapM fun block => Item.ofBlock block.1 block.2)
          >>= fun rest => .ok (items ++ rest)) := by
  induction lines generalizing draft with
  | nil =>
    show draft.finish = _
    rw [← complete_nil]
    cases h : draft.complete [] <;> simp [clusters, h, bind, Except.bind, pure, Except.pure]
  | cons line lines ih =>
    rw [List.foldlM_cons, bind_assoc]
    simp only [ih]
    rw [← bind_assoc]
    by_cases hline : line.indent = 0
    · -- the pending declaration is finished, and the line begins the next block
      rw [take, if_pos hline, clusters_cons_of_pos (by simpa using hline), complete_nil,
        List.mapM_cons]
      cases draft.finish with
      | error e => rfl
      | ok items =>
        show (declare items line >>= fun draft => draft.complete _) >>= _ = _
        rw [declare_complete]
        cases Item.ofBlock line (clusters (·.indent = 0) lines).1 with
        | error e => rfl
        | ok item =>
          cases (clusters (·.indent = 0) lines).2.mapM fun block => Item.ofBlock block.1 block.2 with
          | error e => rfl
          | ok rest => simp [bind, Except.bind, pure, Except.pure]
    · -- the line belongs to the pending declaration
      rw [take_complete hline, clusters_cons_of_neg (by simpa using hline)]

end Draft

/-- **Blocks.** Reading a text in one pass is cutting it into blocks and reading each of them. -/
theorem Service.parse_eq (text : String) :
    Service.parse text = Service.ofLines (significantLines text.toList) := by
  have hparse : Service.parse text =
      ((significantLines text.toList).foldlM Draft.take {} >>= Draft.finish) >>= fun items =>
        .ok ⟨items⟩ := by
    rw [Service.parse, bind_assoc]
    rfl
  rw [hparse, Draft.foldlM_take_eq, Service.ofLines]
  generalize clusters (fun line => decide (line.indent = 0)) (significantLines text.toList) = cut
  obtain ⟨_ | ⟨line, lead⟩, blocks⟩ := cut
  · show (blocks.mapM (fun block => Item.ofBlock block.1 block.2) >>= fun rest => .ok ([] ++ rest))
      >>= _ = Service.mk <$> blocks.mapM fun block => Item.ofBlock block.1 block.2
    cases blocks.mapM fun block => Item.ofBlock block.1 block.2 <;> rfl
  · rfl

end ServiceLang
