import RouteDoc.Proofs.Entries
import RouteDoc.Proofs.Outcome
import RouteDoc.Proofs.Route.Directive
import RouteDoc.Route.Comment

/-! Routes written as annotations and read back. Each annotation adds to one part of a route, so
that only annotations of the same part need an order. -/

namespace RouteDoc

open Text Directive

/-- What one line of a comment says about a route. -/
inductive Annotation where
  | summary (text : Text)
  | description (line : Text)
  | response (status description : Text)
  | router (path method : Text)

namespace Annotation

/-- An annotation as a directive with a payload: a response has a placeholder behind its status, and
a method stands in brackets. -/
inductive States : Annotation → Directive → Text → Prop
  | summary (text : Text) : States (.summary text) .summary text
  | description (line : Text) : States (.description line) .description line
  | response (status description : Text) :
    States (.response status description) .response (status ++ " nil ".toList ++ description)
  | router (path method : Text) {gap : Text} : gap ≠ [] → IsGap gap →
    States (.router path method) .router (path ++ gap ++ '[' :: method ++ [']'])

/-- Annotations written on lines, with any lines between them that carry no directive. -/
inductive Written : List Annotation → List Text → Prop
  | nil : Written [] []
  | line {a : Annotation} {annotations : List Annotation} {directive : Directive}
    {payload line : Text} {lines : List Text} : a.States directive payload →
    Carries directive payload line → Written annotations lines →
    Written (a :: annotations) (line :: lines)
  | other {annotations : List Annotation} {line : Text} {lines : List Text} :
    ofLine? line = none → Written annotations lines → Written annotations (line :: lines)

/-- A method that is the same in upper case, with no bracket at its ends. -/
structure IsMethod (t : Text) : Prop where
  word : t.IsWord
  start : ∀ c ∈ t.head?, c ≠ '[' ∧ c ≠ ']'
  finish : ∀ c ∈ t.getLast?, c ≠ '[' ∧ c ≠ ']'
  upper : toUpper t = t

/-- Nothing of an annotation is lost on its line: a text has no blanks where it ends the line or
begins it, and what is ended by a blank holds none. -/
def IsClear : Annotation → Prop
  | .summary text => strip text = text
  | .description line => strip line = line
  | .response status text => status.IsWord ∧ trimEnd isBlank text = text
  | .router path method => path.IsWord ∧ IsMethod method

def summary? : Annotation → Option Text
  | .summary text => some text
  | _ => none

def line? : Annotation → Option Text
  | .description line => some line
  | _ => none

def response? : Annotation → Option (Text × Text)
  | .response status text => some (status, text)
  | _ => none

def router? : Annotation → Option (Text × Text)
  | .router path method => some (path, method)
  | _ => none

end Annotation

/-- A description with one more line. -/
def appendLine (text line : Text) : Text := if text.isEmpty then line else text ++ '\n' :: line

namespace Route

/-- A route with what one annotation says about it. -/
def annotate (route : Route) : Annotation → Route
  | .summary text => { route with summary := text }
  | .description line => { route with description := appendLine route.description line }
  | .response status description =>
    { route with responses := route.responses.put status { description } }
  | .router path method => { route with path, method }

/-- What no annotation says about a route. -/
def unannotated (route : Route) : Route :=
  { route with path := [], method := [], summary := [], description := [], responses := [] }

/-! ### One line -/

theorem readMethod_bracketed {method : Text} (h : Annotation.IsMethod method) :
    readMethod ('[' :: method ++ [']']) = method := by
  have hbrackets : trim (fun c => c == '[' || c == ']') ('[' :: method ++ [']']) = method := by
    rw [← List.singleton_append, trim_append_right (by simp), trim_append_left (by simp)]
    refine trim_eq_self (fun c hc => ?_) fun c hc => ?_
    · simpa using h.start c hc
    · simpa using h.finish c hc
  rw [readMethod, hbrackets, h.upper]

theorem words_router {path gap method : Text} (hpath : path.IsWord) (hne : gap ≠ [])
    (hgap : IsGap gap) (hmethod : method.IsWord) :
    words (strip (path ++ gap ++ '[' :: method ++ [']'])) = [path, '[' :: method ++ [']']] := by
  have hbracketed : Text.IsWord ('[' :: method ++ [']']) := by
    refine ⟨by simp, fun c hc => ?_⟩
    simp only [List.cons_append, List.mem_cons, List.mem_append, List.not_mem_nil, or_false] at hc
    rcases hc with rfl | hc | rfl
    · decide
    · exact hmethod.solid c hc
    · decide
  have hstrip : strip (path ++ gap ++ '[' :: method ++ [']']) =
      path ++ gap ++ ('[' :: method ++ [']']) := by
    obtain ⟨d, letters, rfl⟩ := List.exists_cons_of_ne_nil hpath.nonempty
    rw [strip, List.append_assoc (d :: letters ++ gap)]
    refine trim_eq_self (fun c hc => ?_) fun c hc => ?_
    · obtain rfl : d = c := Option.some.inj hc
      exact hpath.solid d List.mem_cons_self
    · rw [← List.append_assoc, List.getLast?_concat] at hc
      obtain rfl : ']' = c := Option.some.inj hc
      decide
  rw [hstrip, words_append hpath hne hgap, words_of_isWord hbracketed]

theorem readResponse_strip {status description : Text} (hstatus : status.IsWord)
    (hdescription : trimEnd isBlank description = description) :
    readResponse (strip (status ++ " nil ".toList ++ description)) =
      .ok (status, description) := by
  have hspace : ' ' ∉ status := fun hmem => nomatch hstatus.solid ' ' hmem
  have hnil : ' ' ∉ "nil".toList := by decide
  obtain ⟨d, letters, rfl⟩ := List.exists_cons_of_ne_nil hstatus.nonempty
  have hd : isBlank d = false := hstatus.solid d List.mem_cons_self
  cases description with
  | nil =>
    -- The blank behind the placeholder is stripped with those that end the line.
    have hstrip : strip (d :: letters ++ " nil ".toList ++ []) =
        d :: letters ++ ' ' :: "nil".toList := by
      have hsplit : d :: letters ++ " nil ".toList ++ [] =
          d :: letters ++ ' ' :: "nil".toList ++ [' '] := by simp
      rw [hsplit, strip, trim_append_right (List.forall_mem_singleton.mpr rfl)]
      refine trim_eq_self (fun c hc => ?_) fun c hc => ?_
      · exact Option.some.inj hc ▸ hd
      · rw [List.getLast?_append_of_ne_nil _ (List.cons_ne_nil ' ' _)] at hc
        obtain rfl : 'l' = c := Option.some.inj hc
        decide
    rw [hstrip, readResponse, splitAtMost_append hspace, splitAtMost_of_not_mem hnil]
  | cons e rest =>
    have hstrip : strip (d :: letters ++ " nil ".toList ++ e :: rest) =
        d :: letters ++ ' ' :: ("nil".toList ++ ' ' :: e :: rest) := by
      have hsplit : d :: letters ++ " nil ".toList ++ e :: rest =
          d :: letters ++ ' ' :: ("nil".toList ++ ' ' :: e :: rest) := by simp
      rw [hsplit]
      refine trim_eq_self (fun c hc => ?_) fun c hc => ?_
      · exact Option.some.inj hc ▸ hd
      · rw [← hsplit, List.getLast?_append_of_ne_nil _ (List.cons_ne_nil e rest)] at hc
        exact eq_false_of_mem_getLast?_trimEnd (hdescription.symm ▸ hc)
    rw [hstrip, readResponse, splitAtMost_append hspace, splitAtMost_append hnil]
    rfl

theorem addDirective_of_states {a : Annotation} {directive : Directive} {payload : Text}
    (clear : a.IsClear) (h : a.States directive payload) (route : Route) :
    route.addDirective directive (strip payload) = .ok (route.annotate a) := by
  cases h with
  | summary text => rw [show strip payload = payload from clear]; rfl
  | description line => rw [show strip payload = payload from clear]; rfl
  | response status description =>
    rw [addDirective, readResponse_strip clear.1 clear.2]
    rfl
  | router path method hne hgap =>
    rw [addDirective, words_router clear.1 hne hgap clear.2.word]
    simp only [readMethod_bracketed clear.2]
    rfl

/-! ### All lines -/

theorem foldlM_addLine_of_written {annotations : List Annotation} {lines : List Text}
    (written : Annotation.Written annotations lines)
    (clear : ∀ a ∈ annotations, Annotation.IsClear a) (route : Route) :
    lines.foldlM addLine route = .ok (annotations.foldl annotate route) := by
  induction written generalizing route with
  | nil => rfl
  | line hstates hcarries _ ih =>
    obtain ⟨hclear, hrest⟩ := List.forall_mem_cons.mp clear
    rw [List.foldlM_cons, addLine, ofLine?_of_carries hcarries]
    simp only [addDirective_of_states hclear hstates]
    exact ih hrest _
  | other hother _ ih =>
    rw [List.foldlM_cons, addLine, hother]
    exact ih clear route

/-- A comment declares a route when one of its annotations says where it is found. -/
theorem isDeclaredBy_of_written {annotations : List Annotation} {lines : List Text}
    (written : Annotation.Written annotations lines) :
    isDeclaredBy lines = annotations.any fun a => a.router?.isSome := by
  induction written with
  | nil => rfl
  | line hstates hcarries _ ih =>
    rw [isDeclaredBy] at ih
    rw [isDeclaredBy, List.any_cons, ih, ofFirstWord?_eq_map_ofLine?, ofLine?_of_carries hcarries,
      List.any_cons]
    congr 1
    cases hstates <;> rfl
  | other hother _ ih =>
    rw [isDeclaredBy] at ih
    rw [isDeclaredBy, List.any_cons, ih, ofFirstWord?_eq_map_ofLine?, hother]
    rfl

/-! ### The parts of a route -/

/-- A part of a route to which only some annotations add is made by these alone, in their order. -/
theorem foldl_annotate {β γ : Type} {part : Route → β} {pick : Annotation → Option γ}
    {add : β → γ → β}
    (step : ∀ route a, part (annotate route a) = (pick a).elim (part route) (add (part route)))
    (annotations : List Annotation) (route : Route) :
    part (annotations.foldl annotate route) =
      (annotations.filterMap pick).foldl add (part route) := by
  induction annotations generalizing route with
  | nil => rfl
  | cons a annotations ih =>
    rw [List.foldl_cons, ih, step, List.filterMap_cons]
    cases pick a <;> rfl

theorem eq_of_parts {r s : Route} (hrest : r.unannotated = s.unannotated)
    (hrouter : (r.path, r.method) = (s.path, s.method)) (hsummary : r.summary = s.summary)
    (hdescription : r.description = s.description) (hresponses : r.responses = s.responses) :
    r = s := by
  cases r
  cases s
  simp_all [unannotated]

end Route

/-- Behind a line that is not empty, every line is kept. -/
theorem foldl_appendLine {text : Text} (hne : text ≠ []) (lines : List Text) :
    lines.foldl appendLine text = join ['\n'] (text :: lines) := by
  induction lines generalizing text with
  | nil => simp [join]
  | cons line lines ih =>
    have hstep : appendLine text line = text ++ ['\n'] ++ line := by
      simp [appendLine, hne]
    rw [List.foldl_cons, hstep, ih (by simp), join_append_head, join_cons_cons]

theorem foldl_appendLine_splitOn {text : Text} (hfirst : (splitOn '\n' text).head? ≠ some []) :
    (splitOn '\n' text).foldl appendLine [] = text := by
  cases hlines : splitOn '\n' text with
  | nil => exact nomatch hlines
  | cons first rest =>
    have hne : first ≠ [] := by
      rintro rfl
      exact hfirst (by rw [hlines]; rfl)
    have hstart : appendLine [] first = first := rfl
    rw [List.foldl_cons, hstart, foldl_appendLine hne, ← hlines, join_splitOn]

theorem foldl_appendLine_nil {lines : List Text} (h : ∀ line ∈ lines, line = []) :
    lines.foldl appendLine [] = [] := by
  induction lines with
  | nil => rfl
  | cons line lines ih =>
    obtain ⟨rfl, hrest⟩ := List.forall_mem_cons.mp h
    exact ih hrest

/-! ### Routes -/

/-- What the annotations of a route say together. -/
structure Notes where
  path : Text
  method : Text
  summary : Text
  description : Text
  responses : Entries Text Text

namespace Notes

/-- The route that notes describe, and nothing else. -/
def route (notes : Notes) : Route where
  path := notes.path
  method := notes.method
  summary := notes.summary
  description := notes.description
  responses := notes.responses.map fun (status, description) => (status, { description })

/-- Notes that can be written on lines: no text has a blank where stripping would take it, words are
words, and a description begins with a line that is not empty. -/
structure IsWritable (notes : Notes) : Prop where
  path : notes.path.IsWord
  method : Annotation.IsMethod notes.method
  summary : strip notes.summary = notes.summary
  description : notes.description = [] ∨
    (splitOn '\n' notes.description).head? ≠ some [] ∧
      ∀ line ∈ splitOn '\n' notes.description, strip line = line
  distinct : (Entries.keys notes.responses).Nodup
  responses : ∀ response ∈ notes.responses,
    response.1.IsWord ∧ trimEnd isBlank response.2 = response.2

/-- Annotations that say what notes say: one summary, one place of the route, a line for each line
of the description and an annotation for each response, these in their order. An empty description
takes any number of empty lines. -/
structure Covers (notes : Notes) (annotations : List Annotation) : Prop where
  router : annotations.filterMap Annotation.router? = [(notes.path, notes.method)]
  summary : annotations.filterMap Annotation.summary? = [notes.summary]
  description : annotations.filterMap Annotation.line? = splitOn '\n' notes.description ∨
    notes.description = [] ∧ ∀ line ∈ annotations.filterMap Annotation.line?, line = []
  responses : annotations.filterMap Annotation.response? = notes.responses

variable {notes : Notes} {annotations : List Annotation}

/-- The lines of a description keep their ends, and make the description again. -/
theorem lines_of_covers (writable : notes.IsWritable) (covers : notes.Covers annotations) :
    (∀ line ∈ annotations.filterMap Annotation.line?, strip line = line) ∧
    (annotations.filterMap Annotation.line?).foldl appendLine [] = notes.description := by
  have empty : notes.description = [] →
      (∀ line ∈ annotations.filterMap Annotation.line?, line = []) →
      (∀ line ∈ annotations.filterMap Annotation.line?, strip line = line) ∧
      (annotations.filterMap Annotation.line?).foldl appendLine [] = notes.description := by
    intro hdescription hempty
    refine ⟨fun line hline => ?_, by rw [foldl_appendLine_nil hempty, hdescription]⟩
    rw [hempty line hline]
    rfl
  rcases covers.description with hlines | ⟨hdescription, hempty⟩
  · rcases writable.description with hdescription | ⟨hfirst, hstrip⟩
    · refine empty hdescription fun line hline => ?_
      rw [hlines, hdescription] at hline
      exact List.mem_singleton.mp hline
    · rw [hlines]
      exact ⟨hstrip, foldl_appendLine_splitOn hfirst⟩
  · exact empty hdescription hempty

theorem isClear_of_covers (writable : notes.IsWritable) (covers : notes.Covers annotations) :
    ∀ a ∈ annotations, Annotation.IsClear a := by
  intro a ha
  cases a with
  | summary text =>
    have hmem : text ∈ annotations.filterMap Annotation.summary? :=
      List.mem_filterMap.mpr ⟨_, ha, rfl⟩
    rw [covers.summary, List.mem_singleton] at hmem
    exact hmem ▸ writable.summary
  | description line =>
    have hmem : line ∈ annotations.filterMap Annotation.line? :=
      List.mem_filterMap.mpr ⟨_, ha, rfl⟩
    exact (lines_of_covers writable covers).1 line hmem
  | response status text =>
    have hmem : (status, text) ∈ annotations.filterMap Annotation.response? :=
      List.mem_filterMap.mpr ⟨_, ha, rfl⟩
    rw [covers.responses] at hmem
    exact writable.responses _ hmem
  | router path method =>
    have hmem : (path, method) ∈ annotations.filterMap Annotation.router? :=
      List.mem_filterMap.mpr ⟨_, ha, rfl⟩
    rw [covers.router, List.mem_singleton] at hmem
    obtain ⟨rfl, rfl⟩ := Prod.mk.inj hmem
    exact ⟨writable.path, writable.method⟩

theorem foldl_annotate_of_covers (writable : notes.IsWritable)
    (covers : notes.Covers annotations) :
    annotations.foldl Route.annotate {} = notes.route := by
  have hrouter := @Route.foldl_annotate _ _ (fun r => (r.path, r.method)) Annotation.router?
    (fun _ place => place) (by rintro route (_ | _ | _ | _) <;> rfl) annotations {}
  have hsummary := @Route.foldl_annotate _ _ Route.summary Annotation.summary?
    (fun _ text => text) (by rintro route (_ | _ | _ | _) <;> rfl) annotations {}
  have hdescription := @Route.foldl_annotate _ _ Route.description Annotation.line?
    appendLine (by rintro route (_ | _ | _ | _) <;> rfl) annotations {}
  have hresponses := @Route.foldl_annotate _ _ Route.responses Annotation.response?
    (fun es e => es.put e.1 { description := e.2 }) (by rintro route (_ | _ | _ | _) <;> rfl)
    annotations {}
  have hrest := @Route.foldl_annotate _ Unit Route.unannotated (fun _ => none)
    (fun route _ => route) (by rintro route (_ | _ | _ | _) <;> rfl) annotations {}
  rw [covers.router] at hrouter
  rw [covers.summary] at hsummary
  have hdistinct : (Entries.keys ([] : Entries Text Response) ++
      Entries.keys notes.responses).Nodup := writable.distinct
  refine Route.eq_of_parts ?_ hrouter hsummary ?_ ?_
  · rw [hrest, List.filterMap_eq_nil_iff.mpr fun _ _ => rfl]
    rfl
  · rw [hdescription]
    exact (lines_of_covers writable covers).2
  · rw [hresponses, covers.responses]
    exact Entries.foldl_put_eq_append (fun text => ({ description := text } : Response)) hdistinct

end Notes

/-- Reading undoes writing: a route that consists of what annotations can say is read back from
annotations that say it, in any order that keeps the lines of the description and the responses in
theirs, in any layout, and between any lines without a directive. Their comment declares the
route. -/
theorem Route.ofComment_of_written {notes : Notes} (writable : notes.IsWritable)
    {annotations : List Annotation} (covers : notes.Covers annotations) {lines : List Text}
    (written : Annotation.Written annotations lines) :
    ofComment lines = .ok notes.route ∧ isDeclaredBy lines = true := by
  constructor
  · rw [ofComment, foldlM_addLine_of_written written (Notes.isClear_of_covers writable covers),
      Notes.foldl_annotate_of_covers writable covers]
  · have hmem : (notes.path, notes.method) ∈ annotations.filterMap Annotation.router? := by
      rw [covers.router]
      exact List.mem_singleton_self _
    obtain ⟨a, ha, hplace⟩ := List.mem_filterMap.mp hmem
    rw [isDeclaredBy_of_written written, List.any_eq_true]
    exact ⟨a, ha, by rw [hplace]; rfl⟩

/-- A handler for products, with a description of two lines. -/
def products : Notes where
  path := "/product/:id".toList
  method := "GET".toList
  summary := []
  description := "one\ntwo".toList
  responses := [("200".toList, " all".toList)]

theorem ofComment_products :
    products.IsWritable ∧ Route.ofComment ["# @Router /product/:id  [GET]".toList,
      "// @response 200 nil  all".toList, "# plain".toList, " #@description one ".toList,
      "@SUMMARY".toList, "#\t@description two".toList] = .ok products.route := by
  have method : Annotation.IsMethod products.method := by
    refine ⟨by decide, fun c hc => ?_, fun c hc => ?_, by decide⟩
    · obtain rfl : 'G' = c := Option.some.inj hc
      decide
    · obtain rfl : 'T' = c := Option.some.inj hc
      decide
  have hlines : splitOn '\n' products.description = ["one".toList, "two".toList] := by decide
  have description : (splitOn '\n' products.description).head? ≠ some [] ∧
      ∀ line ∈ splitOn '\n' products.description, strip line = line := by
    rw [hlines]
    exact ⟨by simp, List.forall_mem_cons.mpr ⟨rfl, List.forall_mem_singleton.mpr rfl⟩⟩
  have writable : products.IsWritable :=
    ⟨by decide, method, rfl, .inr description, by decide,
      List.forall_mem_singleton.mpr ⟨by decide, rfl⟩⟩
  have covers : products.Covers [.router products.path products.method,
      .response "200".toList " all".toList, .description "one".toList, .summary [],
      .description "two".toList] := ⟨rfl, rfl, .inl hlines.symm, rfl⟩
  have router : Carries .router "/product/:id  [GET]".toList
      "# @Router /product/:id  [GET]".toList :=
    @Carries.intro _ _ [] ['#'] [' '] "@Router".toList [' '] [] (by decide)
      (List.all_eq_true.mp rfl) (by decide) (by decide) (by decide) (by simp) (by decide)
  have response : Carries .response "200 nil  all".toList "// @response 200 nil  all".toList :=
    @Carries.intro _ _ [] "//".toList [' '] "@response".toList [' '] [] (by decide)
      (List.all_eq_true.mp rfl) (by decide) (by decide) (by decide) (by simp) (by decide)
  have first : Carries .description "one".toList " #@description one ".toList :=
    @Carries.intro _ _ [' '] ['#'] [] "@description".toList [' '] [' '] (by decide)
      (List.all_eq_true.mp rfl) (by decide) (by decide) (by decide) (by simp) (by decide)
  have summary : Carries .summary [] "@SUMMARY".toList :=
    @Carries.intro _ _ [] [] [] "@SUMMARY".toList [] [] (by decide) (List.all_eq_true.mp rfl)
      (by decide) (by decide) (by decide) (by simp) (by decide)
  have second : Carries .description "two".toList "#\t@description two".toList :=
    @Carries.intro _ _ [] ['#'] ['\t'] "@description".toList [' '] [] (by decide)
      (List.all_eq_true.mp rfl) (by decide) (by decide) (by decide) (by simp) (by decide)
  refine ⟨writable, (Route.ofComment_of_written writable covers ?_).1⟩
  exact .line (.router _ _ (List.cons_ne_nil ' ' [' ']) (by decide)) router
    (.line (.response _ _) response (.other (by decide) (.line (.description _) first
      (.line (.summary _) summary (.line (.description _) second .nil)))))

end RouteDoc
