import ServiceLang.Feature.Hover
import ServiceLang.Proofs.Agreement.Margin
import ServiceLang.Proofs.Service.Check
import ServiceLang.Proofs.Text.Number

namespace ServiceLang

open Text

/-!
# The active port

The port of a server declaration may be written behind a plus sign, and the server pattern does
not know such ports. So of several server declarations the outline has the last one whose port is
written without a sign, and the one that takes effect is the last of all.

* `signedPort`: the lines whose port is written behind a plus sign;
* `HeadLine.portPattern_append`: the port pattern on the server lines of the grammar;
* `Outline.server_eq`: the server of the outline, by the server declarations;
* `Outline.server_eq_getLast?_iff`: when it is the active one, and what is shown of the two.
-/

/-! ### The port pattern -/

/-- A blank ends a word. -/
theorem wordEnds_of_blank {gap : List Char} (h : Blank gap) : Pattern.wordEnds gap = true := by
  cases gap with
  | nil => rfl
  | cons b gap =>
    rw [Pattern.wordEnds, isWordChar_of_isSpace (h b List.mem_cons_self)]
    rfl

/-- What follows the first word of the line starts with a plus sign. -/
def signedPort (line : List Char) : Bool := (trim (splitAtSpace (trim line)).2).head? = some '+'

/-- The port pattern reads the digits behind the keyword, up to the trailing blanks. -/
theorem portPattern_digits {s ds gap : List Char} {port : Nat}
    (hkeyword : Spaced "server".toList ds s) (hport : IsPort ds port)
    (hne : ds ≠ []) (hdigits : ∀ c ∈ ds, isAsciiDigit c) (hgap : Blank gap) :
    portPattern (s ++ gap) = some port := by
  have hafter := Pattern.afterKeyword?_append hkeyword hport.startsVisibly gap
  have hcut : (ds ++ gap).takeWhile isDecimal = ds ∧ (ds ++ gap).dropWhile isDecimal = gap := by
    refine takeWhile_dropWhile_iff.mpr
      ⟨rfl, fun c hc => isDecimal_of_isAsciiDigit (hdigits c hc), fun c hc => ?_⟩
    exact isDecimal_of_isSpace (hgap c (List.mem_of_mem_head? hc))
  have hrun : Pattern.server? (s ++ gap) = some ds := by
    simp only [Pattern.server?, hafter, Option.bind_eq_bind, Option.bind_some, hcut.1, hcut.2,
      wordEnds_of_blank hgap, and_true]
    exact if_pos hne
  rw [portPattern, hrun]
  exact readBounded_maxPort_eq_some_iff.mpr hport

/-- The port pattern does not know signs. -/
theorem portPattern_signed {s ds tail : List Char}
    (hkeyword : Spaced "server".toList ('+' :: ds) s) : portPattern (s ++ tail) = none := by
  have hafter := Pattern.afterKeyword?_append hkeyword ⟨'+', ds, rfl, by decide⟩ tail
  have hsign : isDecimal '+' = false := by decide
  have hserver : Pattern.server? (s ++ tail) = none := by
    simp [Pattern.server?, hafter, hsign]
  rw [portPattern, hserver]
  rfl

/-- **Ports.** On a server line of the grammar the port pattern finds the port, unless it is
    written behind a plus sign. -/
theorem HeadLine.portPattern_append {line gap : List Char} {port : Nat}
    (h : HeadLine (trim line) (.server port)) (hgap : Blank gap) :
    portPattern (trim line ++ gap) = if signedPort line then none else some port := by
  cases h with
  | @server s _ hkeyword hport =>
    have hs : trim (splitAtSpace (trim line)).2 = s := by
      obtain ⟨c, rest, rfl, hc⟩ := hport.startsVisibly
      rw [trim_splitAtSpace (noTrailingBlank_trim line)]
      exact ((splitAtSpace_iff hc).mpr ⟨blankFree_iff.mpr rfl, hkeyword⟩).2
    have ⟨ds, hsign, hne, hdigits, _⟩ := hport
    rw [signedPort, hs]
    obtain rfl | rfl := hsign
    · -- a plus sign in front would be one of the digits
      have hunsigned : s.head? ≠ some '+' := fun hplus =>
        absurd (hdigits '+' (List.mem_of_mem_head? hplus)) (by decide)
      rw [decide_eq_false hunsigned]
      exact portPattern_digits hkeyword hport hne hdigits hgap
    · exact portPattern_signed hkeyword

/-! ### The last server -/

/-- The port and the line of a server declaration. -/
def Item.server? : Item → Option (Nat × Nat)
  | .server port line => some (port, line)
  | _ => none

/-- The servers of a description are those of its declarations. -/
theorem Service.servers_eq (service : Service) :
    service.servers = service.items.filterMap Item.server? := rfl

/-- A server line starts with the first letter of its keyword. -/
theorem head?_of_portPattern {s : List Char} {port : Nat} (h : portPattern s = some port) :
    s.head? = some 's' := by
  obtain ⟨run, hrun, -⟩ := Option.bind_eq_some_iff.mp h
  exact Pattern.head?_of_server? hrun

/-- No indented line of the text has the keyword `server` before a blank. -/
def NoIndentedServer (lines : List (List Char)) : Prop :=
  ∀ line ∈ lines, 0 < indentation line →
    ∀ b rest, trim line = "server".toList ++ b :: rest → isSpace b = false

/-- A line with the port pattern has the keyword `server` before a blank. -/
theorem exists_trim_eq_of_portPattern {line : List Char} {port : Nat}
    (h : portPattern (trimStart line) = some port) :
    ∃ b rest, trim line = "server".toList ++ b :: rest ∧ isSpace b = true := by
  obtain ⟨run, hrun, -⟩ := Option.bind_eq_some_iff.mp h
  obtain ⟨rest, hafter, hdigits⟩ := Option.bind_eq_some_iff.mp hrun
  obtain ⟨⟨gap, hne, hgap, hline⟩, hstop⟩ := Pattern.afterKeyword?_eq_some_iff.mp hafter
  obtain ⟨b, gap, rfl⟩ := List.exists_cons_of_ne_nil hne
  -- the digits are not blank, so trimming leaves the blank before them
  cases rest with
  | nil => simp at hdigits
  | cons d rest =>
    refine ⟨b, gap ++ d :: trimEnd rest, ?_, hgap b List.mem_cons_self⟩
    rw [trim, hline, trimEnd_append_cons (stopsAt_cons.mp hstop), List.append_assoc]
    rfl

/-- Without indented server lines, the lines with a port are lines at the margin. -/
theorem indices_portPattern {lines : List (List Char)} (h : NoIndentedServer lines) :
    indices (MatchesOutside lines portPattern) lines.length =
      (indices (AtMargin lines) lines.length).filter
        fun i => (portPattern (trimStart (lineAt lines i))).isSome := by
  rw [← filter_indices_matchesOutside (fun _ _ => head?_of_portPattern) (by decide), eq_comm,
    List.filter_eq_self]
  intro i hi
  obtain ⟨hlt, -, hfound⟩ := mem_indices.mp hi
  obtain ⟨port, hport⟩ := Option.isSome_iff_exists.mp hfound
  obtain ⟨b, rest, hline, hb⟩ := exists_trim_eq_of_portPattern hport
  have hmem : lineAt lines i ∈ lines := by
    simp [lineAt, hlt]
  rw [decide_eq_true_iff]
  refine Nat.eq_zero_of_not_pos fun hpos => ?_
  rw [h _ hmem hpos b rest hline] at hb
  contradiction

/-- A line has a server entry exactly when it declares a port without a sign. -/
theorem DeclaredAt.server_rel {lines : List (List Char)} {i : Nat} {item : Item}
    (h : DeclaredAt lines i item) :
    Option.Rel (fun _ server => portPattern (trimStart (lineAt lines i)) = some server.1 ∧
        server.2 = i + 1)
      (portPattern (trimStart (lineAt lines i)))
      (item.server?.filter fun server => !signedPort (lineAt lines (server.2 - 1))) := by
  have hother := h.pattern_eq_none fun _ _ => head?_of_portPattern
  obtain ⟨below, hitem⟩ := h
  cases hitem with
  | @server port hhead =>
    obtain ⟨gap, hgap, hgap'⟩ := exists_blank_trimStart_eq (lineAt lines i)
    have hport := HeadLine.portPattern_append hhead hgap
    rw [← hgap'] at hport
    -- a sign hides the port from the pattern and drops the server from the filtered ones
    cases hsigned : signedPort (lineAt lines i) with
    | true =>
      rw [hsigned, if_pos rfl] at hport
      simp only [hport, Item.server?, sourceLineAt, Nat.add_sub_cancel, Option.filter_some, hsigned]
      exact .none
    | false =>
      rw [hsigned, if_neg Bool.false_ne_true] at hport
      simp only [hport, Item.server?, sourceLineAt, Nat.add_sub_cancel, Option.filter_some, hsigned]
      exact .some ⟨rfl, rfl⟩
  | _ => rw [hother (by simp [Item.initial])]; exact .none

/-- The last elements of related lists are related. -/
theorem rel_getLast?_of_forall₂ {α β : Type} {R : α → β → Prop} {as : List α} {bs : List β}
    (h : List.Forall₂ R as bs) : Option.Rel R as.getLast? bs.getLast? := by
  have hreverse := List.rel_reverse h
  rw [List.getLast?_eq_head?_reverse, List.getLast?_eq_head?_reverse]
  generalize as.reverse = as at hreverse
  generalize bs.reverse = bs at hreverse
  cases hreverse with
  | nil => exact .none
  | cons hab _ => exact .some hab

/-- **The server of the outline** is the last server declaration whose port is written without a
    sign. -/
theorem Outline.server_eq {text : String} {service : Service}
    (h : Service.parse text = .ok service) (hplain : NoIndentedServer (Text.lines text.toList)) :
    (Outline.ofText text).server.map (fun entry => (entry.port, entry.line + 1)) =
      (service.servers.filter fun server =>
        !signedPort (lineAt (Text.lines text.toList) (server.2 - 1))).getLast? := by
  have hitems := forall₂_declaredAt (Service.describes_of_parse h)
  have hserver := (Outline.isOutline_ofText text).server
  have hservers := rel_getLast?_of_forall₂
    (forall₂_filter_filterMap hitems fun _ _ h => h.server_rel)
  rw [indices_portPattern hplain] at hserver
  rw [Service.servers_eq, List.filter_filterMap]
  -- both are the value of the last position with a port, if there is one
  generalize (Outline.ofText text).server = found at hserver
  generalize List.getLast? (List.filterMap _ _) = last at hservers
  generalize List.getLast? (List.filter _ _) = position at hserver hservers
  cases hserver with
  | none => cases hservers; rfl
  | some hentry =>
    cases hservers with
    | some hlast =>
      rw [Option.map_some, hentry.placed.number_eq, ← hlast.2]
      rw [hentry.port] at hlast
      rw [Option.some.inj hlast.1]

/-- The last element stays last where it stays. -/
theorem getLast?_filter_of_pos {α : Type} {p : α → Bool} {as : List α} {a : α}
    (h : as.getLast? = some a) (ha : p a = true) : (as.filter p).getLast? = some a := by
  obtain ⟨front, rfl⟩ := List.getLast?_eq_some_iff.mp h
  rw [List.filter_append, List.filter_cons_of_pos ha]
  exact List.getLast?_concat

/-- Several server declarations are reported with the last of them. -/
theorem Service.mem_warnings_of_getLast? {service : Service} {port line : Nat}
    (h : service.servers.getLast? = some (port, line)) (hseveral : 1 < service.servers.length) :
    .warning s!"multiple server declarations; port {port} from line {line} takes effect" ∈
      service.check.warnings := by
  obtain ⟨general, special, hwarnings, hgeneral, -⟩ := service.isReport_check.warnings
  rw [hwarnings, hgeneral.unique (.several hseveral h)]
  exact List.mem_append_left _ (List.mem_singleton.mpr rfl)

/-- The port that is shown is that of the server entry. -/
theorem activePort_of_some {outline : Outline} {entry : ServerEntry}
    (h : outline.server = some entry) :
    activePort outline = s!"\n\nActive port: `{entry.port}` (line {entry.line + 1})" := by
  have hopen : "` (" ++ "line " = "` (line " := rfl
  simp only [activePort, h, shownLine, ← hopen, toString, String.append_assoc]

/-- What the keyword `server` shows of a found port. -/
theorem Outline.card?_server {outline : Outline} {port line : Nat}
    (h : outline.server.map (fun entry => (entry.port, entry.line + 1)) = some (port, line)) :
    ∃ card, outline.card? "server" =
      some (card ++ s!"\n\nActive port: `{port}` (line {line})") := by
  obtain ⟨entry, hentry, hport⟩ := Option.map_eq_some_iff.mp h
  obtain ⟨rfl, rfl⟩ := Prod.mk.inj hport
  obtain ⟨card, hcard⟩ : ∃ card, keywordCard? "server" = some card := ⟨_, rfl⟩
  refine ⟨card, ?_⟩
  rw [Outline.card?, hcard, ← activePort_of_some hentry]
  rfl

/-- **The active port.** Suppose that a text is a service description and none of its indented
    lines starts with the keyword `server` and a blank. Then the server of its outline is the last
    server declaration whose port is written without a sign. It is the last of all, which takes
    effect, exactly when that one is written without a sign, and then the port shown for the
    keyword `server` is the port named by the warning about several declarations. -/
theorem Outline.server_eq_getLast?_iff (text : String) (service : Service)
    (h : Service.parse text = .ok service) (hplain : NoIndentedServer (Text.lines text.toList)) :
    (Outline.ofText text).server.map (fun entry => (entry.port, entry.line + 1)) =
        (service.servers.filter fun server =>
          !signedPort (lineAt (Text.lines text.toList) (server.2 - 1))).getLast? ∧
      ((Outline.ofText text).server.map (fun entry => (entry.port, entry.line + 1)) =
          service.servers.getLast? ↔
        ∀ server ∈ service.servers.getLast?,
          signedPort (lineAt (Text.lines text.toList) (server.2 - 1)) = false) ∧
      ∀ port line, service.servers.getLast? = some (port, line) →
        signedPort (lineAt (Text.lines text.toList) (line - 1)) = false →
        (∃ card, (Outline.ofText text).card? "server" =
          some (card ++ s!"\n\nActive port: `{port}` (line {line})")) ∧
        (1 < service.servers.length → .warning
          s!"multiple server declarations; port {port} from line {line} takes effect" ∈
            service.check.warnings) := by
  have hserver := Outline.server_eq h hplain
  have hlast : ∀ server ∈ service.servers.getLast?,
      signedPort (lineAt (Text.lines text.toList) (server.2 - 1)) = false →
      (Outline.ofText text).server.map (fun entry => (entry.port, entry.line + 1)) =
        some server := by
    intro server hmem hunsigned
    rw [hserver]
    exact getLast?_filter_of_pos hmem (by rw [hunsigned]; rfl)
  refine ⟨hserver, ⟨fun hsame server hmem => ?_, fun hunsigned => ?_⟩, ?_⟩
  · -- the last server is among those without a sign
    rw [hserver, Option.mem_def.mp hmem] at hsame
    simpa using (List.mem_filter.mp (List.mem_of_getLast? hsame)).2
  · cases hservers : service.servers.getLast? with
    | none =>
      rw [hserver, List.getLast?_eq_none_iff.mp hservers]
      rfl
    | some server => exact hlast server hservers (hunsigned server hservers)
  · intro port line hservers hunsigned
    exact ⟨Outline.card?_server (hlast _ hservers hunsigned),
      Service.mem_warnings_of_getLast? hservers⟩

/-- A text without indented lines has no indented server line. -/
theorem noIndentedServer_of_margin {lines : List (List Char)}
    (h : lines.all (indentation · == 0) = true) : NoIndentedServer lines := by
  intro line hline hpos
  have hzero := List.all_eq_true.mp h line hline
  rw [beq_iff_eq] at hzero
  omega

/-- Of two ports without signs the second is active, and the warning names it. -/
theorem Outline.server_eq_getLast?_iff_second :
    Service.parse "server 1\nserver 2" = .ok ⟨[.server 1 1, .server 2 2]⟩ ∧
      NoIndentedServer (Text.lines "server 1\nserver 2".toList) ∧
      (Outline.ofText "server 1\nserver 2").server.map (fun entry =>
        (entry.port, entry.line + 1)) = some (2, 2) ∧
      (∃ card, (Outline.ofText "server 1\nserver 2").card? "server" =
        some (card ++ "\n\nActive port: `2` (line 2)")) ∧
      .warning "multiple server declarations; port 2 from line 2 takes effect" ∈
        (Service.check ⟨[.server 1 1, .server 2 2]⟩).warnings := by
  have hparse : Service.parse "server 1\nserver 2" = .ok ⟨[.server 1 1, .server 2 2]⟩ := by
    decide +kernel
  have hplain : NoIndentedServer (Text.lines "server 1\nserver 2".toList) :=
    noIndentedServer_of_margin (by decide +kernel)
  have hunsigned : signedPort (lineAt (Text.lines "server 1\nserver 2".toList) 1) = false := by
    decide +kernel
  obtain ⟨-, hlast, hshown⟩ := Outline.server_eq_getLast?_iff _ _ hparse hplain
  obtain ⟨hcard, hwarning⟩ := hshown 2 2 rfl hunsigned
  exact ⟨hparse, hplain, hlast.mpr fun server hserver => Option.some.inj hserver ▸ hunsigned, hcard,
    hwarning (by decide)⟩

/-- A sign hides the active port: the outline has the first of two servers when the second is
    written behind a plus sign. -/
theorem Outline.server_ne_getLast?_of_signed :
    Service.parse "server 1\nserver +2" = .ok ⟨[.server 1 1, .server 2 2]⟩ ∧
      NoIndentedServer (Text.lines "server 1\nserver +2".toList) ∧
      (Outline.ofText "server 1\nserver +2").server.map (fun entry =>
        (entry.port, entry.line + 1)) = some (1, 1) ∧
      (Service.mk [.server 1 1, .server 2 2]).servers.getLast? = some (2, 2) :=
  ⟨by decide +kernel, noIndentedServer_of_margin (by decide +kernel), by decide +kernel, rfl⟩

end ServiceLang
