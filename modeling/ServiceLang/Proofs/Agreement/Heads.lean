import ServiceLang.Proofs.Outline.Pattern
import ServiceLang.Proofs.Service.Lexical

namespace ServiceLang

open Text

/-!
# The line patterns on the lines of the grammar

The patterns look at the beginning of a line only. On a line of the grammar they find what the
grammar says, whatever follows the part that they read:

* `Pattern.afterKeyword?_eq_some_iff`: what follows a keyword and its blanks;
* `HeadLine.endpoint?_append`, `HeadLine.function?_append`, `HeadLine.class?_append`: the lines that
  open declarations;
* `MemberLine.method?_append`: the lines that open methods;
* `HeadLine.head?_eq`: the first letter of such a line tells what it opens.
-/

/-! ### Keywords -/

/-- Text at the end goes behind the word. -/
theorem Text.Spaced.append {word rest s : List Char} (h : Spaced word rest s) (tail : List Char) :
    Spaced word (rest ++ tail) (s ++ tail) := by
  obtain ⟨gap, hne, hgap, rfl⟩ := h
  exact ⟨gap, hne, hgap, by simp⟩

/-- Text at the end does not change how a text starts. -/
theorem Text.StartsVisibly.append {s : List Char} (h : StartsVisibly s) (tail : List Char) :
    StartsVisibly (s ++ tail) := by
  obtain ⟨c, rest, rfl, hc⟩ := h
  exact ⟨c, rest ++ tail, rfl, hc⟩

/-- A text that starts visibly starts with no blank. -/
theorem Text.StartsVisibly.stopsAt {s : List Char} (h : StartsVisibly s) : StopsAt isSpace s := by
  obtain ⟨c, rest, rfl, hc⟩ := h
  exact stopsAt_cons.mpr hc

namespace Pattern

/-- **Keywords.** What follows a keyword is found exactly when blanks stand between the two, and
    all of them are passed over. -/
theorem afterKeyword?_eq_some_iff {keyword : String} {s rest : List Char} :
    afterKeyword? keyword s = some rest ↔
      Spaced keyword.toList rest s ∧ StopsAt isSpace rest := by
  constructor
  · intro h
    rw [afterKeyword?] at h
    split at h
    case h_2 => simp at h
    case h_1 c after hstrip =>
      split at h
      case isFalse => simp at h
      case isTrue hc =>
        obtain rfl := Option.some.inj h
        obtain ⟨hcut, hgap, hrest⟩ :=
          (takeWhile_dropWhile_iff (s := after) (p := isSpace)).mp ⟨rfl, rfl⟩
        refine ⟨⟨c :: after.takeWhile isSpace, List.cons_ne_nil _ _,
          List.forall_mem_cons.mpr ⟨hc, hgap⟩, ?_⟩, hrest⟩
        rw [strip?_eq_some_iff.mp hstrip, List.append_assoc, List.cons_append, trimStart, ← hcut]
  · rintro ⟨⟨gap, hne, hgap, rfl⟩, hrest⟩
    obtain ⟨b, gap, rfl⟩ := List.exists_cons_of_ne_nil hne
    obtain ⟨hb, hgap⟩ := List.forall_mem_cons.mp hgap
    have hstrip : strip? keyword.toList (keyword.toList ++ b :: gap ++ rest) =
        some (b :: (gap ++ rest)) := strip?_eq_some_iff.mpr (by simp)
    have htrim : trimStart (gap ++ rest) = rest := by
      rw [trimStart_append hgap]
      exact dropWhile_of_stopsAt hrest
    simp only [afterKeyword?, hstrip, hb, if_true, htrim]

/-- A keyword before a text that does not start with a blank. -/
theorem afterKeyword?_append {keyword : String} {s rest : List Char}
    (h : Spaced keyword.toList rest s) (hrest : StartsVisibly rest) (tail : List Char) :
    afterKeyword? keyword (s ++ tail) = some (rest ++ tail) :=
  afterKeyword?_eq_some_iff.mpr ⟨h.append tail, (hrest.append tail).stopsAt⟩

/-- A function line starts with the first letter of its keyword. -/
theorem head?_of_func? {s : List Char} {found : List Char × List Char}
    (h : callable? "func" s = some found) : s.head? = some 'f' :=
  head?_of_callable? h (by decide)

end Pattern

/-! ### Lines that open methods and functions -/

/-- **Signatures.** Behind a keyword the pattern finds the name and the parameters of a
    signature. -/
theorem IsSignature.callable?_append {keyword : String} {content s : List Char}
    {signature : Signature} (h : IsSignature s signature)
    (hkeyword : Spaced keyword.toList s content) (tail : List Char) :
    ∃ args, Pattern.callable? keyword (content ++ tail) = some (signature.name, args) ∧
      signature.params = pieces args := by
  have hafter := Pattern.afterKeyword?_append hkeyword h.startsVisibly tail
  obtain ⟨gap, args, rest, rfl, hident, hgap, hclose, hparams, -⟩ := h
  have hname : takeIdent? (signature.name ++ gap ++ '(' :: args ++ ')' :: rest ++ tail) =
      some (signature.name, gap ++ '(' :: (args ++ ')' :: (rest ++ tail))) := by
    refine takeIdent?_eq_some_iff.mpr ⟨hident, by simp, ?_⟩
    exact stopsAt_isIdentChar hgap (by decide)
  have hinside : trimStart (gap ++ '(' :: (args ++ ')' :: (rest ++ tail))) =
      '(' :: (args ++ ')' :: (rest ++ tail)) :=
    (trimStart_eq_cons_iff (by decide)).mpr ⟨gap, hgap, rfl⟩
  have hargs : (args ++ ')' :: (rest ++ tail)).takeWhile (· != ')') = args := by
    refine (takeWhile_dropWhile_iff.mpr ⟨rfl, fun c hc => ?_, by simp [stopsAt_cons]⟩).1
    simpa using ne_of_mem_of_not_mem hc hclose
  refine ⟨trim args, ?_, hparams.trans (pieces_trim args).symm⟩
  simp only [Pattern.callable?, hafter, Option.bind_eq_bind, Option.bind_some, hname,
    Pattern.rawArgs, hinside, hargs, Option.pure_def]

/-- The first letter of a line is the first letter of its keyword. -/
theorem Text.Spaced.head?_eq {word rest s : List Char} {c : Char} (h : Spaced word rest s)
    (hc : word.head? = some c) : s.head? = some c := by
  obtain ⟨gap, -, -, rfl⟩ := h
  rw [List.append_assoc, List.head?_append, hc, Option.some_or]

/-- A line that opens a method has the method pattern, with its name and parameters. -/
theorem MemberLine.method?_append {content : List Char} {signature : Signature}
    (h : MemberLine content signature) (tail : List Char) :
    ∃ args, Pattern.method? (content ++ tail) = some (signature.name, args) ∧
      signature.params = pieces args := by
  obtain ⟨keyword, hmem, s, hkeyword, hsignature⟩ := h
  obtain ⟨args, hfound, hparams⟩ := hsignature.callable?_append hkeyword tail
  refine ⟨args, ?_, hparams⟩
  simp only [List.mem_cons, List.not_mem_nil, or_false] at hmem
  obtain rfl | rfl := hmem
  · rw [Pattern.method?, hfound]
    rfl
  · -- a line with the other keyword starts with another letter
    have hhead : (content ++ tail).head? = some 'f' :=
      (hkeyword.append tail).head?_eq (by decide)
    have hmethod : Pattern.callable? "method" (content ++ tail) = none :=
      Pattern.eq_none_of_head? (fun _ hfound => Pattern.head?_of_callable? hfound (by decide))
        hhead (by decide : 'f' ≠ 'm')
    rw [Pattern.method?, hmethod, hfound]
    rfl

/-- A function line of the grammar is a function line of the outline, with the same parameters,
    whatever stands behind it. -/
theorem HeadLine.function?_append {content : List Char} {signature : Signature}
    (h : HeadLine content (.function signature)) (tail : List Char) :
    ∃ args, Pattern.callable? "func" (content ++ tail) = some (signature.name, args) ∧
      signature.params = pieces args := by
  cases h with
  | function hkeyword hsignature => exact hsignature.callable?_append hkeyword tail

/-! ### Lines that open endpoints and classes -/

/-- The names of methods are made of letters. -/
theorem HttpMethod.isAsciiLetter_name (method : HttpMethod) :
    method.name.toList ≠ [] ∧ method.name.toList.all isAsciiLetter = true := by
  cases method <;> exact ⟨by decide, rfl⟩

/-- No letter is blank. -/
theorem isAsciiLetter_of_isSpace {c : Char} (h : isSpace c = true) : isAsciiLetter c = false := by
  rw [← Bool.not_eq_true]
  intro hletter
  have hident : isIdentChar c = true := by
    rw [isIdentChar, isIdentStart, hletter, Bool.true_or, Bool.true_or]
  rw [isSpace_of_isIdentChar hident] at h
  contradiction

/-- An endpoint line of the grammar is an endpoint line of the outline. -/
theorem HeadLine.endpoint?_append {content path inline : List Char} {method : HttpMethod}
    (h : HeadLine content (.endpoint method path inline)) (tail : List Char) :
    Pattern.endpoint? (content ++ tail) = some (method.name.toList, path) := by
  cases h with
  | @endpoint request _ rest _ _ hkeyword hrequest hpath _ =>
    have hafter :=
      Pattern.afterKeyword?_append hkeyword (HttpMethod.startsVisibly hrequest) tail
    obtain ⟨gap, hne, hgap, rfl⟩ := hrequest
    obtain ⟨b, gap, rfl⟩ := List.exists_cons_of_ne_nil hne
    obtain ⟨hb, hgap⟩ := List.forall_mem_cons.mp hgap
    obtain ⟨hname, hletters⟩ := method.isAsciiLetter_name
    generalize method.name.toList = name at hname hletters hafter
    have hcut : (name ++ b :: gap ++ ('"' :: path ++ '"' :: rest) ++ tail).takeWhile isAsciiLetter =
          name ∧
        (name ++ b :: gap ++ ('"' :: path ++ '"' :: rest) ++ tail).dropWhile isAsciiLetter =
          b :: (gap ++ '"' :: (path ++ '"' :: (rest ++ tail))) := by
      refine takeWhile_dropWhile_iff.mpr ⟨by simp, List.all_eq_true.mp hletters, ?_⟩
      exact stopsAt_cons.mpr (isAsciiLetter_of_isSpace hb)
    have hquoted : trimStart (gap ++ '"' :: (path ++ '"' :: (rest ++ tail))) =
        '"' :: (path ++ '"' :: (rest ++ tail)) :=
      (trimStart_eq_cons_iff (by decide)).mpr ⟨gap, hgap, rfl⟩
    have hfound : (path ++ '"' :: (rest ++ tail)).takeWhile (· != '"') = path := by
      refine (takeWhile_dropWhile_iff.mpr ⟨rfl, fun c hc => ?_, by simp [stopsAt_cons]⟩).1
      simpa using ne_of_mem_of_not_mem hc hpath
    obtain ⟨c, name, rfl⟩ := List.exists_cons_of_ne_nil hname
    simp only [Pattern.endpoint?, hafter, Option.bind_eq_bind, Option.bind_some, hcut.1, hcut.2, hb,
      if_true, hquoted, Pattern.path?, hfound, Option.map_some]

/-- A class line of the grammar is a class line of the outline. -/
theorem HeadLine.class?_append {content name : List Char}
    (h : HeadLine content (.classDecl name)) (tail : List Char) :
    Pattern.class? (content ++ tail) = some name := by
  cases h with
  | @classDecl _ rest hkeyword hname hopen =>
    have hafter := Pattern.afterKeyword?_append hkeyword (hname.startsVisibly rest) tail
    obtain ⟨gap, raw, hgap, rfl, -⟩ := hopen
    have hident : takeIdent? (name ++ (gap ++ ':' :: raw) ++ tail) =
        some (name, gap ++ ':' :: (raw ++ tail)) := by
      refine takeIdent?_eq_some_iff.mpr ⟨hname, by simp, ?_⟩
      exact stopsAt_isIdentChar hgap (by decide)
    simp only [Pattern.class?, hafter, Option.bind_eq_bind, Option.bind_some, hident,
      Option.pure_def]

/-! ### First letters -/

/-- The first letter of the keyword of a declaration. -/
def Head.initial : Head → Char
  | .server _ => 's'
  | .endpoint .. => 'e'
  | .function _ => 'f'
  | .classDecl _ => 'c'

/-- A head line starts with the first letter of its keyword. -/
theorem HeadLine.head?_eq {content : List Char} {head : Head} (h : HeadLine content head) :
    content.head? = some head.initial := by
  cases h with
  | server hkeyword _ => exact hkeyword.head?_eq rfl
  | endpoint hkeyword _ _ _ => exact hkeyword.head?_eq rfl
  | function hkeyword _ => exact hkeyword.head?_eq rfl
  | classDecl hkeyword _ _ => exact hkeyword.head?_eq rfl

end ServiceLang
