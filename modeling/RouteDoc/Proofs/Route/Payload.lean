import Mathlib.Data.List.Induction
import RouteDoc.Proofs.Route.Reading

/-! Comment groups as a whole: a route is made of the payloads of each directive in their order,
whatever stands between them. -/

namespace RouteDoc

open Text Directive

namespace Directive

/-- What the lines of a directive say, in their order. -/
def payloads (directive : Directive) (lines : List Text) : List Text :=
  lines.filterMap fun line =>
    (ofLine? line).bind fun found => if found.1 = directive then some found.2 else none

/-- A payload has as many fields as its directive asks for. -/
def Reads : Directive → Text → Prop
  | .router, payload => (words payload).length = 2
  | .response, payload => 2 ≤ (splitOn ' ' payload).length
  | .summary, _ | .description, _ => True

/-- All that lines say for their directives can be read. -/
def Readable (lines : List Text) : Prop :=
  ∀ directive : Directive, ∀ payload ∈ directive.payloads lines, directive.Reads payload

theorem payloads_append (directive : Directive) (before after : List Text) :
    directive.payloads (before ++ after) = directive.payloads before ++ directive.payloads after :=
  List.filterMap_append

theorem payloads_singleton (directive : Directive) (line : Text) :
    directive.payloads [line] = (ofLine? line).elim [] fun found =>
      if found.1 = directive then [found.2] else [] := by
  unfold payloads
  cases h : ofLine? line with
  | none => simp [h]
  | some found => by_cases hdirective : found.1 = directive <;> simp [h, hdirective]

theorem mem_payloads_iff {directive : Directive} {lines : List Text} {payload : Text} :
    payload ∈ directive.payloads lines ↔
      ∃ line ∈ lines, ofLine? line = some (directive, payload) := by
  simp only [payloads, List.mem_filterMap, Option.bind_eq_some_iff, Option.ite_none_right_eq_some,
    Option.some.injEq]
  refine exists_congr fun line => and_congr_right fun _ => ?_
  constructor
  · rintro ⟨found, hfound, rfl, rfl⟩
    exact hfound
  · exact fun h => ⟨_, h, rfl, rfl⟩

theorem readable_append {before after : List Text} :
    Readable (before ++ after) ↔ Readable before ∧ Readable after := by
  simp only [Readable, payloads_append, List.forall_mem_append, forall_and]

theorem readable_iff {lines : List Text} :
    Readable lines ↔ ∀ line ∈ lines, ∀ fault, ¬Breaks line fault := by
  constructor
  · rintro h line hline fault (⟨hfound, hwords⟩ | ⟨hfound, hpieces⟩)
    · exact hwords (h .router _ (mem_payloads_iff.mpr ⟨line, hline, hfound⟩))
    · exact Nat.not_lt.mpr (h .response _ (mem_payloads_iff.mpr ⟨line, hline, hfound⟩)) hpieces
  · intro h directive payload hpayload
    obtain ⟨line, hline, hfound⟩ := mem_payloads_iff.mp hpayload
    cases directive with
    | summary | description => trivial
    | router => exact not_not.mp fun hwords => h line hline _ (.router hfound hwords)
    | response => exact Nat.not_lt.mp fun hpieces => h line hline _ (.response hfound hpieces)

/-- Two lines do not have the same directive. -/
def Differ (line next : Text) : Prop :=
  ∀ found ∈ ofLine? line, ∀ other ∈ ofLine? next, found.1 ≠ other.1

theorem Differ.symm {line next : Text} (h : Differ line next) : Differ next line :=
  fun other hother found hfound => (h found hfound other hother).symm

theorem payloads_swap {line next : Text} (h : Differ line next) (directive : Directive) :
    directive.payloads [next, line] = directive.payloads [line, next] := by
  have hpair : ∀ l n,
      directive.payloads [l, n] = directive.payloads [l] ++ directive.payloads [n] :=
    fun l n => payloads_append directive [l] [n]
  rw [hpair, hpair, payloads_singleton, payloads_singleton]
  cases hline : ofLine? line with
  | none => simp
  | some found =>
    cases hnext : ofLine? next with
    | none => simp
    | some other =>
      have hne := h found hline other hnext
      by_cases hfound : found.1 = directive
      · have hother : other.1 ≠ directive := fun hother => hne (hfound.trans hother.symm)
        simp [hfound, hother]
      · simp [hfound]

end Directive

namespace Route

/-- The status in the payload of a response: its first piece between spaces. -/
def status (payload : Text) : Text := (splitOn ' ' payload).headD []

/-- The description in the payload of a response: the pieces behind its status and placeholder. -/
def remark (payload : Text) : Text := join [' '] ((splitOn ' ' payload).drop 2)

/-- The last description of a status. -/
def lastRemark (payloads : List Text) (s : Text) : Text :=
  (payloads.filter fun payload => status payload = s).getLast?.elim [] remark

/-- The responses that payloads describe: each status where it is named first. -/
def responsesOf (payloads : List Text) : Entries Text Response :=
  (payloads.map status).eraseDups.map fun s => (s, { description := lastRemark payloads s })

/-- The route that the payloads of each directive describe. -/
def ofPayloads (payloads : Directive → List Text) : Route where
  path := (payloads .router).getLast?.elim [] fun payload => (words payload).headD []
  method := (payloads .router).getLast?.elim [] fun payload =>
    readMethod ((words payload).getD 1 [])
  summary := (payloads .summary).getLast?.getD []
  description := join ['\n'] ((payloads .description).dropWhile List.isEmpty)
  responses := responsesOf (payloads .response)

/-- Payloads with one more of a directive. -/
def extend (payloads : Directive → List Text) (directive : Directive) (payload : Text) :
    Directive → List Text :=
  fun other => payloads other ++ if directive = other then [payload] else []

/-! ### The fields of one payload -/

theorem readResponse_of_reads {payload : Text} (h : Directive.response.Reads payload) :
    readResponse payload = .ok (status payload, remark payload) := by
  have hspace : ' ' ∈ payload := not_not.mp fun hmem =>
    Nat.not_lt.mpr h (length_splitOn_lt_two_iff.mpr hmem)
  obtain ⟨s, rest, rfl, hs⟩ := List.eq_append_cons_of_mem hspace
  rw [readResponse, splitAtMost_append hs, status, remark, splitOn_append, splitOn_of_not_mem hs]
  by_cases hrest : ' ' ∈ rest
  · obtain ⟨placeholder, description, rfl, hplaceholder⟩ := List.eq_append_cons_of_mem hrest
    rw [splitAtMost_append hplaceholder, splitOn_append, splitOn_of_not_mem hplaceholder]
    have hjoin : join [' '] (splitOn ' ' description) = description := join_splitOn ' ' description
    simp [splitAtMost, hjoin]
  · rw [splitAtMost_of_not_mem hrest, splitOn_of_not_mem hrest]
    rfl

/-- A method is what stands between the brackets at the ends of a word, in upper case. -/
theorem exists_readMethod (word : Text) : ∃ opening core closing,
    word = opening ++ core ++ closing ∧ (∀ c ∈ opening ++ closing, c = '[' ∨ c = ']') ∧
    (∀ c ∈ core.head?, c ≠ '[' ∧ c ≠ ']') ∧ (∀ c ∈ core.getLast?, c ≠ '[' ∧ c ≠ ']') ∧
    readMethod word = toUpper core := by
  obtain ⟨opening, closing, hopening, hclosing, hsplit⟩ :=
    exists_trim_append (p := fun c => c == '[' || c == ']') word
  refine ⟨opening, _, closing, hsplit, fun c hc => ?_, fun c hc => ?_, fun c hc => ?_, rfl⟩
  · rcases List.mem_append.mp hc with hc | hc
    · simpa using hopening c hc
    · simpa using hclosing c hc
  · simpa using eq_false_of_mem_head?_trim hc
  · simpa using eq_false_of_mem_getLast?_trimEnd hc

/-! ### One more payload -/

theorem appendLine_join (lines : List Text) (line : Text) :
    appendLine (join ['\n'] (lines.dropWhile List.isEmpty)) line =
      join ['\n'] ((lines ++ [line]).dropWhile List.isEmpty) := by
  rw [List.dropWhile_append]
  cases hlines : lines.dropWhile List.isEmpty with
  | nil =>
    cases line <;> simp [appendLine, join]
  | cons first rest =>
    have hne : first ≠ [] := by
      rintro rfl
      have hfirst := List.head?_dropWhile_not List.isEmpty lines
      simp [hlines] at hfirst
    calc appendLine (join ['\n'] (first :: rest)) line
        = (rest ++ [line]).foldl appendLine first := by
          rw [List.foldl_append, foldl_appendLine hne]
          rfl
      _ = join ['\n'] (first :: rest ++ [line]) := foldl_appendLine hne _

theorem keys_responsesOf (payloads : List Text) :
    Entries.keys (responsesOf payloads) = (payloads.map status).eraseDups := by
  rw [Entries.keys, responsesOf, List.map_map]
  exact List.map_id _

theorem lastRemark_concat (payloads : List Text) (payload s : Text) :
    lastRemark (payloads ++ [payload]) s =
      if status payload = s then remark payload else lastRemark payloads s := by
  unfold lastRemark
  rw [List.filter_append]
  by_cases h : status payload = s <;> simp [h]

theorem put_responsesOf (payloads : List Text) (payload : Text) :
    (responsesOf payloads).put (status payload) { description := remark payload } =
      responsesOf (payloads ++ [payload]) := by
  have hkeys : Entries.keys ((responsesOf payloads).put (status payload)
      { description := remark payload }) = Entries.keys (responsesOf (payloads ++ [payload])) := by
    rw [Entries.keys_put, keys_responsesOf, keys_responsesOf, List.map_append, List.map_singleton,
      eraseDups_concat]
  refine Entries.eq_of_get? ?_ hkeys fun s => ?_
  · rw [hkeys, keys_responsesOf]
    exact nodup_eraseDups _
  · rw [Entries.get?_put, responsesOf, responsesOf, Entries.get?_map_keys, Entries.get?_map_keys,
      lastRemark_concat]
    by_cases h : status payload = s
    · simp [h]
    · simp [h, Ne.symm h]

theorem addDirective_ofPayloads {directive : Directive} {payload : Text}
    (h : directive.Reads payload) (payloads : Directive → List Text) :
    (ofPayloads payloads).addDirective directive payload =
      .ok (ofPayloads (extend payloads directive payload)) := by
  cases directive with
  | summary => simp [addDirective, ofPayloads, extend]
  | description =>
    simpa [addDirective, ofPayloads, extend, appendLine] using
      appendLine_join (payloads .description) payload
  | router =>
    obtain ⟨path, method, hwords⟩ := List.length_eq_two.mp h
    simp [addDirective, ofPayloads, extend, hwords]
  | response =>
    rw [addDirective, readResponse_of_reads h]
    simp [ofPayloads, extend, ← put_responsesOf, bind, Except.bind, pure, Except.pure]

/-- A line that can be read makes a route of its payload too. -/
theorem addLine_ofPayloads {line : Text} (h : Readable [line])
    (payloads : Directive → List Text) : addLine (ofPayloads payloads) line =
      .ok (ofPayloads fun directive => payloads directive ++ directive.payloads [line]) := by
  simp only [Readable, payloads_singleton] at h ⊢
  unfold addLine
  cases hline : ofLine? line with
  | none => simp
  | some found =>
    rw [hline] at h
    exact addDirective_ofPayloads (h found.1 found.2 (by simp)) payloads

/-! ### All lines -/

theorem ofComment_append (before after : List Text) :
    ofComment (before ++ after) = ofComment before >>= fun route => after.foldlM addLine route :=
  List.foldlM_append

theorem ofComment_of_readable {lines : List Text} (h : Readable lines) :
    ofComment lines = .ok (ofPayloads fun directive => directive.payloads lines) := by
  -- What the lines so far have made is described by their payloads, and one more line adds its own.
  induction lines using List.reverseRecOn with
  | nil => rfl
  | append_singleton lines line ih =>
    obtain ⟨hlines, hline⟩ := readable_append.mp h
    simp only [payloads_append]
    rw [ofComment_append, ih hlines]
    refine bind_eq_ok_iff.mpr ⟨_, rfl, ?_⟩
    rw [List.foldlM_cons, addLine_ofPayloads hline]
    rfl

theorem ofComment_eq_ok_iff {lines : List Text} {route : Route} :
    ofComment lines = .ok route ↔
      Readable lines ∧ route = ofPayloads fun directive => directive.payloads lines := by
  constructor
  · intro h
    have hreadable := readable_iff.mpr (exists_ofComment_iff.mp ⟨route, h⟩)
    rw [ofComment_of_readable hreadable] at h
    exact ⟨hreadable, (Except.ok.inj h).symm⟩
  · rintro ⟨hreadable, rfl⟩
    exact ofComment_of_readable hreadable

/-- A line without a directive makes no difference, not even to the fault. -/
theorem ofComment_insert {line : Text} (h : ofLine? line = none) (before after : List Text) :
    ofComment (before ++ line :: after) = ofComment (before ++ after) := by
  rw [ofComment_append, ofComment_append]
  refine congrArg (ofComment before >>= ·) (funext fun route => ?_)
  rw [List.foldlM_cons, addLine, h]
  rfl

theorem ofComment_of_breaks {before : List Text} {line : Text} {fault : DirectiveFault}
    (sound : ∀ l ∈ before, ∀ f, ¬Breaks l f) (h : Breaks line fault) (after : List Text) :
    ofComment (before ++ line :: after) = .error fault :=
  ofComment_eq_error_iff.mpr
    ⟨before, line, after, rfl, fun l hl => Annotation.exists_ofLine_iff.mpr (sound l hl), h⟩

/-- Neighbours of different directives can change places, if not both are at fault. -/
theorem ofComment_swap {line next : Text} (readable : Readable [line]) (differ : Differ line next)
    (before after : List Text) :
    ofComment (before ++ line :: next :: after) = ofComment (before ++ next :: line :: after) := by
  have hpair : ofComment (before ++ [line, next]) = ofComment (before ++ [next, line]) := by
    cases hbefore : ofComment before with
    | error fault => simp only [ofComment_append, hbefore, bind, Except.bind]
    | ok route =>
      have hstart : Readable (before ++ [line]) :=
        readable_append.mpr ⟨(ofComment_eq_ok_iff.mp hbefore).1, readable⟩
      have hline : before ++ [line, next] = before ++ [line] ++ [next] := by simp
      by_cases hnext : Readable [next]
      · have hsame : ∀ directive : Directive, directive.payloads (before ++ [next, line]) =
            directive.payloads (before ++ [line, next]) := by
          intro directive
          rw [payloads_append, payloads_append, payloads_swap differ]
        have hreadable : Readable (before ++ [line, next]) := by
          rw [hline]
          exact readable_append.mpr ⟨hstart, hnext⟩
        rw [ofComment_of_readable hreadable]
        refine (ofComment_eq_ok_iff.mpr ⟨?_, ?_⟩).symm
        · simpa only [Readable, hsame] using hreadable
        · simp only [hsame]
      · -- Either way the fault of the second line is the first that is met.
        obtain ⟨fault, hfault⟩ : ∃ fault, Breaks next fault := by
          by_contra hsound
          refine hnext (readable_iff.mpr (List.forall_mem_singleton.mpr fun fault hfault => ?_))
          exact hsound ⟨fault, hfault⟩
        have hsound := readable_iff.mp hstart
        rw [hline, ofComment_of_breaks hsound hfault, ofComment_of_breaks
          (fun l hl => hsound l (List.mem_append_left _ hl)) hfault]
  have hsplit : ∀ l n : Text, before ++ l :: n :: after = before ++ [l, n] ++ after := by
    intro l n
    simp
  rw [hsplit, ofComment_append, hpair, hsplit, ← ofComment_append]

/-- A line without fault can be moved behind lines of other directives. -/
theorem ofComment_move {line : Text} (readable : Readable [line]) {between : List Text}
    (differ : ∀ l ∈ between, Differ line l) (before after : List Text) :
    ofComment (before ++ line :: (between ++ after)) =
      ofComment (before ++ (between ++ line :: after)) := by
  induction between generalizing before with
  | nil => rfl
  | cons l between ih =>
    obtain ⟨hl, hbetween⟩ := List.forall_mem_cons.mp differ
    have hstep := ih hbetween (before ++ [l])
    simp only [List.append_assoc, List.singleton_append] at hstep
    rw [List.cons_append, ofComment_swap readable hl, hstep]
    rfl

theorem ofComment_exchange {line next : Text} (readable : Readable [line, next])
    (differ : Differ line next) {between : List Text}
    (others : ∀ l ∈ between, Differ line l ∧ Differ next l) (before after : List Text) :
    ofComment (before ++ next :: (between ++ line :: after)) =
      ofComment (before ++ line :: (between ++ next :: after)) := by
  obtain ⟨hline, hnext⟩ := (@readable_append [line] [next]).mp readable
  have hswap := ofComment_swap hnext differ.symm (before ++ between) after
  simp only [List.append_assoc] at hswap
  calc ofComment (before ++ next :: (between ++ line :: after))
      = ofComment (before ++ (between ++ next :: line :: after)) :=
        ofComment_move hnext (fun l hl => (others l hl).2) before (line :: after)
    _ = ofComment (before ++ (between ++ line :: next :: after)) := hswap
    _ = ofComment (before ++ line :: (between ++ next :: after)) :=
        (ofComment_move hline (fun l hl => (others l hl).1) before (next :: after)).symm

/-- The route of a comment group is made of what the lines of each directive say, in their order.
The group is at fault with its first faulty line and with no other. Otherwise the last summary and
the last place count, the description has every line from the first that is not empty, and each
status has its last description. So lines without a directive can come and go, and lines of
different directives change places, unless a line of one of them stands between. -/
theorem ofComment_by_payloads (lines : List Text) :
    (∀ fault, ofComment lines = .error fault ↔ ∃ before line after,
      lines = before ++ line :: after ∧ (∀ l ∈ before, ∀ f, ¬Breaks l f) ∧ Breaks line fault) ∧
    ((∀ line ∈ lines, ∀ fault, ¬Breaks line fault) →
      ∃ route, ofComment lines = .ok route ∧
        route = ofPayloads (fun directive => directive.payloads lines) ∧
        ∀ payload ∈ (Directive.router.payloads lines).getLast?, ∃ opening core closing,
          words payload = [route.path, opening ++ core ++ closing] ∧
          (∀ c ∈ opening ++ closing, c = '[' ∨ c = ']') ∧
          (∀ c ∈ core.head?, c ≠ '[' ∧ c ≠ ']') ∧ (∀ c ∈ core.getLast?, c ≠ '[' ∧ c ≠ ']') ∧
          route.method = toUpper core) ∧
    (∀ others : List Text,
      (∀ directive : Directive, directive.payloads others = directive.payloads lines) →
      ∀ route, ofComment others = .ok route ↔ ofComment lines = .ok route) ∧
    (∀ before line after, lines = before ++ line :: after → ofLine? line = none →
      ofComment (before ++ after) = ofComment lines) ∧
    ∀ before line between next after, lines = before ++ line :: (between ++ next :: after) →
      (∀ l ∈ [line, next], ∀ fault, ¬Breaks l fault) → Differ line next →
      (∀ l ∈ between, Differ line l ∧ Differ next l) →
      ofComment (before ++ next :: (between ++ line :: after)) = ofComment lines := by
  refine ⟨fun fault => ?_, fun sound => ?_, fun others same route => ?_, ?_, ?_⟩
  · simp only [ofComment_eq_error_iff, Annotation.exists_ofLine_iff]
  · have hreadable := readable_iff.mpr sound
    refine ⟨_, ofComment_of_readable hreadable, rfl, fun payload hlast => ?_⟩
    obtain ⟨path, word, hwords⟩ :=
      List.length_eq_two.mp (hreadable .router payload (List.mem_of_getLast? hlast))
    obtain ⟨opening, core, closing, hword, hbrackets, hstart, hend, hmethod⟩ :=
      exists_readMethod word
    refine ⟨opening, core, closing, ?_, hbrackets, hstart, hend, ?_⟩
    · simp [ofPayloads, Option.mem_def.mp hlast, hwords, ← hword]
    · simp [ofPayloads, Option.mem_def.mp hlast, hwords, hmethod]
  · simp only [ofComment_eq_ok_iff, Readable, same]
  · rintro before line after rfl hline
    exact (ofComment_insert hline before after).symm
  · rintro before line between next after rfl sound differ others
    exact ofComment_exchange (readable_iff.mpr sound) differ others before after

/-- A group that gives its summary and one of its responses twice. -/
def orders : List Text := ["# @summary draft".toList, "# @summary list orders".toList,
  "# @router /orders [get]".toList, "# @response 200 nil".toList,
  "# @response 404 nil none".toList, "# @response 200 nil all".toList]

theorem ofComment_orders :
    ofComment orders = .ok {
      path := "/orders".toList
      method := "GET".toList
      summary := "list orders".toList
      responses := [("200".toList, { description := "all".toList }),
        ("404".toList, { description := "none".toList })] } ∧
    ofComment ("# @summary draft".toList :: "# @response 200 nil".toList ::
      "# @router /orders [get]".toList :: "# @summary list orders".toList :: orders.drop 4) =
      ofComment orders := by
  have hrouter : Directive.router.payloads orders = ["/orders [get]".toList] := by decide
  have hresponse : Directive.response.payloads orders =
      ["200 nil".toList, "404 nil none".toList, "200 nil all".toList] := by decide
  have sound : ∀ line ∈ orders, ∀ fault, ¬Breaks line fault := by
    refine readable_iff.mp fun directive => ?_
    cases directive with
    | summary | description => exact fun _ _ => trivial
    | router =>
      rw [hrouter]
      exact List.forall_mem_singleton.mpr rfl
    | response =>
      rw [hresponse]
      simp only [List.forall_mem_cons, Reads]
      exact ⟨by decide, by decide, by decide, List.forall_mem_nil _⟩
  have differ : Differ "# @summary list orders".toList "# @response 200 nil".toList ∧
      Differ "# @summary list orders".toList "# @router /orders [get]".toList ∧
      Differ "# @response 200 nil".toList "# @router /orders [get]".toList := by
    unfold Differ
    decide
  have exchanged : ∀ line ∈ ["# @summary list orders".toList, "# @response 200 nil".toList],
      ∀ fault, ¬Breaks line fault := by
    intro line hline
    refine sound line ?_
    revert line
    decide
  obtain ⟨-, described, -, -, exchange⟩ := ofComment_by_payloads orders
  obtain ⟨route, hroute, rfl, -⟩ := described sound
  refine ⟨hroute.trans ?_, exchange ["# @summary draft".toList] _
    ["# @router /orders [get]".toList] _ (orders.drop 4) rfl exchanged differ.1
    (List.forall_mem_singleton.mpr differ.2)⟩
  have hsummary : Directive.summary.payloads orders = ["draft".toList, "list orders".toList] := by
    decide
  have hdescription : Directive.description.payloads orders = [] := by decide
  simp only [ofPayloads, hrouter, hresponse, hsummary, hdescription]
  rfl

end Route

end RouteDoc
