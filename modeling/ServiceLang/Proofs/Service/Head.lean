import ServiceLang.Proofs.Outcome
import ServiceLang.Proofs.Service.Grammar

namespace ServiceLang

open Text

/-!
# Reading head lines

Each reader of a head line accepts exactly the lines of the grammar, with the values that the
grammar gives them:

* `readOpener_eq_ok_iff`, `readSignature_eq_ok_iff`: the parts that heads share;
* `readServer_eq_ok_iff`, `readEndpoint_eq_ok_iff`, `readClass_eq_ok_iff`: behind the keyword;
* `readHead_eq_ok_iff`, `readMember_eq_ok_iff`: whole lines.
-/

/-! ### Shared parts -/

/-- The cut is at the first such character. -/
theorem splitAtChar?_eq_some_iff {c : Char} {s before after : List Char} :
    splitAtChar? c s = some (before, after) ↔ c ∉ before ∧ s = before ++ c :: after := by
  constructor
  · intro h
    have hcut := (takeWhile_dropWhile_iff (s := s) (p := (· != c))).mp ⟨rfl, rfl⟩
    cases hdrop : s.dropWhile (· != c) with
    | nil => simp [splitAtChar?, hdrop] at h
    | cons d rest =>
      simp only [splitAtChar?, hdrop, Option.some.injEq, Prod.mk.injEq] at h
      obtain ⟨rfl, rfl⟩ := h
      have hd : d = c := by simpa [hdrop, stopsAt_cons] using hcut.2.2
      refine ⟨fun hmem => by simpa using hcut.2.1 c hmem, ?_⟩
      have hs := hcut.1
      rw [hdrop, hd] at hs
      exact hs
  · rintro ⟨hbefore, rfl⟩
    have hcut : (before ++ c :: after).takeWhile (· != c) = before ∧
        (before ++ c :: after).dropWhile (· != c) = c :: after := by
      refine takeWhile_dropWhile_iff.mpr ⟨rfl, fun d hd => ?_, by simp [stopsAt_cons]⟩
      simpa using ne_of_mem_of_not_mem hd hbefore
    simp only [splitAtChar?, hcut.1, hcut.2]

/-- Pieces between commas are those of the library's cut at a character. -/
theorem splitCommas_eq_splitOn (s : List Char) : splitCommas s = s.splitOn ',' := by
  induction s with
  | nil => rfl
  | cons c s ih =>
    rw [splitCommas, List.splitOn_cons_eq_if_modifyHead, ih]
    by_cases hc : c = ','
    · simp [hc]
    · cases hs : s.splitOn ',' with
      | nil => exact absurd hs (List.splitOn_ne_nil ',' s)
      | cons piece pieces => simp [hc]

/-- The parameters that are read are the pieces of the text. -/
theorem readParams_eq_pieces (args : List Char) : readParams args = pieces args := by
  rw [readParams, splitCommas_eq_splitOn, pieces]

/-- The reader of openers accepts exactly a colon behind blanks. -/
theorem readOpener_eq_ok_iff {construct : Construct} {s inline : List Char} :
    readOpener construct s = .ok inline ↔ Opens s inline := by
  constructor
  · intro h
    rw [readOpener] at h
    split at h
    case h_2 => simp at h
    case h_1 raw hs =>
      obtain ⟨gap, hgap, rfl⟩ := (trimStart_eq_cons_iff (by decide)).mp hs
      exact ⟨gap, raw, hgap, rfl, (Except.ok.inj h).symm⟩
  · rintro ⟨gap, raw, hgap, rfl, rfl⟩
    have hs : trimStart (gap ++ ':' :: raw) = ':' :: raw :=
      (trimStart_eq_cons_iff (by decide)).mpr ⟨gap, hgap, rfl⟩
    simp only [readOpener, hs]

/-- Blanks do not belong to identifiers, nor does a character that opens what follows a name. -/
theorem stopsAt_isIdentChar {gap rest : List Char} {c : Char} (hgap : Blank gap)
    (hc : isIdentChar c = false) : StopsAt isIdentChar (gap ++ c :: rest) := by
  refine stopsAt_blank_append (fun b hb => ?_) hgap hc
  rw [← Bool.not_eq_true]
  intro hident
  rw [isSpace_of_isIdentChar hident] at hb
  contradiction

/-- **Signatures.** The reader accepts exactly the signatures of the grammar. -/
theorem readSignature_eq_ok_iff {keyword : String} {s : List Char} {signature : Signature} :
    readSignature keyword s = .ok signature ↔ IsSignature s signature := by
  constructor
  · intro h
    rw [readSignature] at h
    split at h
    case h_1 => simp at h
    case h_2 name after hname =>
      obtain ⟨hident, rfl, -⟩ := takeIdent?_eq_some_iff.mp hname
      split at h
      case h_2 => simp at h
      case h_1 inside hinside =>
        obtain ⟨gap, hgap, rfl⟩ := (trimStart_eq_cons_iff (by decide)).mp hinside
        split at h
        case h_1 => simp at h
        case h_2 args rest hargs =>
          obtain ⟨hclose, rfl⟩ := splitAtChar?_eq_some_iff.mp hargs
          obtain ⟨inline, hrest, hsignature⟩ := bind_eq_ok_iff.mp h
          obtain rfl := Except.ok.inj hsignature
          exact ⟨gap, args, rest, by simp, hident, hgap, hclose, readParams_eq_pieces args,
            readOpener_eq_ok_iff.mp hrest⟩
  · rintro ⟨gap, args, rest, rfl, hident, hgap, hclose, hparams, hopen⟩
    -- each reader cuts its part off exactly, since the next part starts outside its class
    have hname : takeIdent? (signature.name ++ gap ++ '(' :: args ++ ')' :: rest) =
        some (signature.name, gap ++ '(' :: (args ++ ')' :: rest)) := by
      refine takeIdent?_eq_some_iff.mpr ⟨hident, by simp, ?_⟩
      exact stopsAt_isIdentChar hgap (by decide)
    have hinside : trimStart (gap ++ '(' :: (args ++ ')' :: rest)) =
        '(' :: (args ++ ')' :: rest) :=
      (trimStart_eq_cons_iff (by decide)).mpr ⟨gap, hgap, rfl⟩
    have hargs : splitAtChar? ')' (args ++ ')' :: rest) = some (args, rest) :=
      splitAtChar?_eq_some_iff.mpr ⟨hclose, rfl⟩
    have hrest : readOpener .function rest = .ok signature.inline :=
      readOpener_eq_ok_iff.mpr hopen
    simp only [readSignature, hname, hinside, hargs, hrest, readParams_eq_pieces, ← hparams]
    rfl

/-! ### Behind the keyword -/

/-- Only a plus sign in front is dropped, and no digit is a plus sign. -/
theorem isPort_iff_dropPlus {s : List Char} {port : Nat} :
    IsPort s port ↔ dropPlus s ≠ [] ∧ (∀ c ∈ dropPlus s, isAsciiDigit c) ∧
      port = readDigits (dropPlus s) ∧ port ≤ 65535 := by
  constructor
  · rintro ⟨ds, rfl | rfl, hne, hdigits, hport⟩
    · -- a plus sign in front would be one of the digits
      have hdrop : dropPlus s = s := by
        rw [dropPlus]
        intro rest hs
        exact absurd (hdigits '+' (hs ▸ List.mem_cons_self)) (by decide)
      rw [hdrop]
      exact ⟨hne, hdigits, hport⟩
    · exact ⟨hne, hdigits, hport⟩
  · intro h
    refine ⟨dropPlus s, ?_, h⟩
    rw [dropPlus.eq_def]
    split
    · exact Or.inr rfl
    · exact Or.inl rfl

/-- The reader of numbers, bounded by the largest port, accepts exactly the ports. -/
theorem readBounded_maxPort_eq_some_iff {s : List Char} {port : Nat} :
    readBounded maxPort s = some port ↔ IsPort s port := by
  rw [isPort_iff_dropPlus, readBounded]
  split
  case isTrue h =>
    rw [Option.some.injEq]
    constructor
    · rintro rfl
      exact ⟨h.1, List.all_eq_true.mp h.2.1, rfl, h.2.2⟩
    · exact fun hport => hport.2.2.1.symm
  case isFalse h =>
    constructor
    · intro hnone
      contradiction
    · rintro ⟨hne, hdigits, rfl, hle⟩
      exact absurd ⟨hne, List.all_eq_true.mpr hdigits, hle⟩ h

/-- The reader of servers accepts exactly the ports. -/
theorem readServer_eq_ok_iff {s : List Char} {head : Head} :
    readServer s = .ok head ↔ ∃ port, IsPort s port ∧ head = .server port := by
  simp only [← readBounded_maxPort_eq_some_iff, readServer]
  cases readBounded maxPort s with
  | none => simp
  | some port => simp [eq_comm]

/-- Each method has one name. -/
theorem HttpMethod.ofName?_eq_some_iff {name : String} {method : HttpMethod} :
    HttpMethod.ofName? name = some method ↔ name = method.name := by
  constructor
  · intro h
    have hname := List.find?_some (p := fun m : HttpMethod => m.name == name) h
    exact (beq_iff_eq.mp hname).symm
  · rintro rfl
    cases method <;> decide

/-- No blank occurs in the names of methods. -/
theorem HttpMethod.blankFree_name (method : HttpMethod) : BlankFree method.name.toList := by
  rw [blankFree_iff]
  cases method <;> rfl

/-- The reader of endpoints accepts exactly a method, a quoted path and an opener. -/
theorem readEndpoint_eq_ok_iff {s : List Char} {head : Head} :
    readEndpoint s = .ok head ↔ ∃ method path rest inline,
      Spaced method.name.toList ('"' :: path ++ '"' :: rest) s ∧ '"' ∉ path ∧
        Opens rest inline ∧ head = .endpoint method path inline := by
  constructor
  -- The reader takes the method, the quoted path and the opener in turn, and each may fail.
  · intro h
    simp only [readEndpoint] at h
    split at h
    case h_1 => simp at h
    case h_2 method hmethod =>
      have hname : (splitAtSpace s).1 = method.name.toList := by
        rw [← HttpMethod.ofName?_eq_some_iff.mp hmethod, String.toList_ofList]
      split at h
      case h_2 => simp at h
      case h_1 quoted hquoted =>
        have hspaced := ((splitAtSpace_iff (by decide)).mp ⟨hname, hquoted⟩).2
        split at h
        case h_1 => simp at h
        case h_2 path rest hpath =>
          obtain ⟨hquote, rfl⟩ := splitAtChar?_eq_some_iff.mp hpath
          obtain ⟨inline, hrest, hhead⟩ := bind_eq_ok_iff.mp h
          exact ⟨method, path, rest, inline, hspaced, hquote,
            readOpener_eq_ok_iff.mp hrest, (Except.ok.inj hhead).symm⟩
  · rintro ⟨method, path, rest, inline, hspaced, hquote, hopen, rfl⟩
    obtain ⟨hname, hquoted⟩ :=
      (splitAtSpace_iff (by decide)).mpr ⟨method.blankFree_name, hspaced⟩
    have hmethod : HttpMethod.ofName? (String.ofList method.name.toList) = some method :=
      HttpMethod.ofName?_eq_some_iff.mpr String.ofList_toList
    have hpath : splitAtChar? '"' (path ++ '"' :: rest) = some (path, rest) :=
      splitAtChar?_eq_some_iff.mpr ⟨hquote, rfl⟩
    have hrest : readOpener .endpoint rest = .ok inline := readOpener_eq_ok_iff.mpr hopen
    simp only [readEndpoint, hname, hmethod, hquoted, List.append_eq, hpath, hrest]
    rfl

/-- The reader of classes accepts exactly a name and an opener with nothing behind it. -/
theorem readClass_eq_ok_iff {s : List Char} {head : Head} :
    readClass s = .ok head ↔ ∃ name rest, s = name ++ rest ∧ IsIdent name ∧
      Opens rest [] ∧ head = .classDecl name := by
  constructor
  · intro h
    rw [readClass] at h
    split at h
    case h_1 => simp at h
    case h_2 name after hname =>
      obtain ⟨hident, rfl, -⟩ := takeIdent?_eq_some_iff.mp hname
      obtain ⟨inline, hafter, hhead⟩ := bind_eq_ok_iff.mp h
      cases inline with
      | cons c trailing => cases hhead
      | nil =>
        exact ⟨name, after, rfl, hident, readOpener_eq_ok_iff.mp hafter,
          (Except.ok.inj hhead).symm⟩
  · rintro ⟨name, rest, rfl, hident, hopen, rfl⟩
    -- the name ends where the blanks before the colon begin, or at the colon
    have hname : takeIdent? (name ++ rest) = some (name, rest) := by
      refine takeIdent?_eq_some_iff.mpr ⟨hident, rfl, ?_⟩
      obtain ⟨gap, raw, hgap, rfl, -⟩ := hopen
      exact stopsAt_isIdentChar hgap (by decide)
    have hrest : readOpener .classDecl rest = .ok [] := readOpener_eq_ok_iff.mpr hopen
    simp only [readClass, hname, hrest]
    rfl

/-! ### Whole lines -/

/-- **Keyword lines.** A reader whose texts do not start with a blank reads what follows the
    keyword of a line exactly when blanks stand between the two. -/
theorem splitAtSpace_trim_iff {α : Type} {content keyword : List Char}
    (read : List Char → Except Fault α) {a : α} (hcontent : NoTrailingBlank content)
    (hkeyword : keyword.any isSpace = false)
    (hread : ∀ s, read s = .ok a → StartsVisibly s) :
    (splitAtSpace content).1 = keyword ∧ read (trim (splitAtSpace content).2) = .ok a ↔
      ∃ s, Spaced keyword s content ∧ read s = .ok a := by
  rw [trim_splitAtSpace hcontent]
  constructor
  · rintro ⟨hword, hok⟩
    obtain ⟨c, rest, hs, hc⟩ := hread _ hok
    rw [hs] at hok
    exact ⟨c :: rest, ((splitAtSpace_iff hc).mp ⟨hword, hs⟩).2, hok⟩
  · rintro ⟨s, hspaced, hok⟩
    obtain ⟨c, rest, rfl, hc⟩ := hread s hok
    obtain ⟨hword, hs⟩ := (splitAtSpace_iff hc).mpr ⟨blankFree_iff.mpr hkeyword, hspaced⟩
    exact ⟨hword, hs ▸ hok⟩

/-- A port starts with a visible character. -/
theorem IsPort.startsVisibly {s : List Char} {port : Nat} (h : IsPort s port) :
    StartsVisibly s := by
  obtain ⟨ds, hs, hne, hdigits, -⟩ := h
  obtain ⟨d, rest, rfl⟩ := List.exists_cons_of_ne_nil hne
  have hd : isSpace d = false := by
    have hdigit : isIdentChar d := by
      rw [isIdentChar, Bool.or_eq_true]
      exact Or.inr (hdigits d List.mem_cons_self)
    exact isSpace_of_isIdentChar hdigit
  obtain rfl | rfl := hs
  · exact ⟨d, rest, rfl, hd⟩
  · exact ⟨'+', d :: rest, rfl, by decide⟩

/-- A signature starts with a visible character. -/
theorem IsSignature.startsVisibly {s : List Char} {signature : Signature}
    (h : IsSignature s signature) : StartsVisibly s := by
  obtain ⟨gap, args, rest, rfl, hident, -⟩ := h
  rw [List.append_assoc, List.append_assoc]
  exact hident.startsVisibly _

/-- A method starts with a visible character. -/
theorem HttpMethod.startsVisibly {s rest : List Char} {method : HttpMethod}
    (h : Spaced method.name.toList rest s) : StartsVisibly s := by
  obtain ⟨gap, -, -, rfl⟩ := h
  cases method <;> exact ⟨_, _, rfl, by decide⟩

/-- The lines that open declarations, by their keyword. -/
theorem readHead_eq_ok_iff_or {content : List Char} {head : Head} :
    readHead content = .ok head ↔
      ((splitAtSpace content).1 = "server".toList ∧
        readServer (trim (splitAtSpace content).2) = .ok head) ∨
      ((splitAtSpace content).1 = "endpoint".toList ∧
        readEndpoint (trim (splitAtSpace content).2) = .ok head) ∨
      ((splitAtSpace content).1 = "func".toList ∧
        Head.function <$> readSignature "func" (trim (splitAtSpace content).2) = .ok head) ∨
      ((splitAtSpace content).1 = "class".toList ∧
        readClass (trim (splitAtSpace content).2) = .ok head) := by
  simp only [readHead]
  split
  case isTrue h => simp [h]
  case isFalse hserver =>
    split
    case isTrue h => simp [h]
    case isFalse hendpoint =>
      split
      case isTrue h => simp [h]
      case isFalse hfunc =>
        split
        case isTrue h => simp [h]
        case isFalse hclass =>
          simp only [hserver, hendpoint, hfunc, hclass, false_and, or_self, reduceCtorEq]

/-- **The lines that open declarations are the head lines of the grammar.** -/
theorem readHead_eq_ok_iff {content : List Char} {head : Head}
    (hcontent : NoTrailingBlank content) : readHead content = .ok head ↔ HeadLine content head := by
  -- The reader cuts the blanks behind the keyword off. Every kind of rest starts visibly, so that
  -- cutting them is the spacing of the grammar.
  rw [readHead_eq_ok_iff_or,
    splitAtSpace_trim_iff readServer hcontent rfl fun s hs => ?server,
    splitAtSpace_trim_iff readEndpoint hcontent rfl fun s hs => ?endpoint,
    splitAtSpace_trim_iff (Head.function <$> readSignature "func" ·) hcontent rfl
      fun s hs => ?function,
    splitAtSpace_trim_iff readClass hcontent rfl fun s hs => ?classDecl]
  case server =>
    obtain ⟨port, hport, -⟩ := readServer_eq_ok_iff.mp hs
    exact hport.startsVisibly
  case endpoint =>
    obtain ⟨method, path, rest, inline, hspaced, -⟩ := readEndpoint_eq_ok_iff.mp hs
    exact HttpMethod.startsVisibly hspaced
  case function =>
    obtain ⟨signature, hsignature, -⟩ := map_eq_ok_iff.mp hs
    exact (readSignature_eq_ok_iff.mp hsignature).startsVisibly
  case classDecl =>
    obtain ⟨name, rest, rfl, hname, -⟩ := readClass_eq_ok_iff.mp hs
    exact hname.startsVisibly rest
  simp only [readServer_eq_ok_iff, readEndpoint_eq_ok_iff, map_eq_ok_iff, readSignature_eq_ok_iff,
    readClass_eq_ok_iff]
  constructor
  · rintro (⟨s, hspaced, port, hport, rfl⟩ |
      ⟨s, hspaced, method, path, rest, inline, hrequest, hpath, hopen, rfl⟩ |
      ⟨s, hspaced, signature, hsignature, rfl⟩ | ⟨s, hspaced, name, rest, rfl, hname, hopen, rfl⟩)
    · exact .server hspaced hport
    · exact .endpoint hspaced hrequest hpath hopen
    · exact .function hspaced hsignature
    · exact .classDecl hspaced hname hopen
  · intro h
    cases h with
    | server hspaced hport => exact .inl ⟨_, hspaced, _, hport, rfl⟩
    | endpoint hspaced hrequest hpath hopen =>
      exact .inr (.inl ⟨_, hspaced, _, _, _, _, hrequest, hpath, hopen, rfl⟩)
    | function hspaced hsignature => exact .inr (.inr (.inl ⟨_, hspaced, _, hsignature, rfl⟩))
    | classDecl hspaced hname hopen =>
      exact .inr (.inr (.inr ⟨_, hspaced, _, _, rfl, hname, hopen, rfl⟩))

/-- **The lines that open methods are the member lines of the grammar.** -/
theorem readMember_eq_ok_iff {content : List Char} {signature : Signature}
    (hcontent : NoTrailingBlank content) :
    readMember content = .ok signature ↔ MemberLine content signature := by
  have hline : ∀ keyword : String, keyword.toList.any isSpace = false →
      ((splitAtSpace content).1 = keyword.toList ∧
          readSignature keyword (trim (splitAtSpace content).2) = .ok signature ↔
        ∃ s, Spaced keyword.toList s content ∧ IsSignature s signature) := by
    intro keyword hkeyword
    rw [splitAtSpace_trim_iff (readSignature keyword) hcontent hkeyword fun s hs =>
      (readSignature_eq_ok_iff.mp hs).startsVisibly]
    simp only [readSignature_eq_ok_iff]
  simp only [MemberLine, List.mem_cons, List.not_mem_nil, or_false, exists_eq_or_imp,
    exists_eq_left]
  rw [← hline "method" rfl, ← hline "func" rfl]
  simp only [readMember, readSignature_eq_ok_iff, ← or_and_right]
  split
  case isTrue h => rw [readSignature_eq_ok_iff, and_iff_right h]
  case isFalse h => simp only [h, false_and, reduceCtorEq]

end ServiceLang
