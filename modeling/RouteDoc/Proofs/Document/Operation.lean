import RouteDoc.Document.Operation
import RouteDoc.Proofs.Parameter.Overrun

/-! What stops the operation of a route: the first failure of its parameters, or else of the schemas
of its responses in order. An operation that is made has the responses of its route. -/

namespace RouteDoc

namespace Operation

variable {catalog : Catalog} {rules : List Rule} {route : Route} {operation : Operation}

theorem responseEntry_eq_error_iff {contentType : Text} {response : Response} {failure : Failure} :
    responseEntry catalog rules contentType response = .error failure ↔
      Synthesis.schemaOf catalog rules response.body = .error failure := by
  unfold responseEntry
  simp [Synthesis.bodySchema_eq, bind_eq_error_iff, pure, Except.pure]

theorem responseEntry_eq_ok_iff {contentType : Text} {response : Response}
    {entry : ResponseEntry} : responseEntry catalog rules contentType response = .ok entry ↔
      ∃ schema, Synthesis.schemaOf catalog rules response.body = .ok schema ∧
        ⟨response.description, response.headers, response.foreign, [(contentType, schema)]⟩ =
          entry := by
  unfold responseEntry
  simp [Synthesis.bodySchema_eq, bind_eq_ok_iff, pure, Except.pure]

theorem exists_responseEntry_iff {contentType : Text} {response : Response} :
    (∃ entry, responseEntry catalog rules contentType response = .ok entry) ↔
      ∃ schema, Synthesis.schemaOf catalog rules response.body = .ok schema := by
  simp [responseEntry_eq_ok_iff]

theorem ofRoute_eq_error_iff {failure : Failure} :
    ofRoute catalog rules route = .error failure ↔
      Extraction.parametersOf catalog rules route.request = .error failure ∨
      (∃ parameters, Extraction.parametersOf catalog rules route.request = .ok parameters) ∧
        ∃ before status response after, route.responses = before ++ (status, response) :: after ∧
          (∀ other ∈ before, ∃ schema,
            Synthesis.schemaOf catalog rules other.2.body = .ok schema) ∧
          Synthesis.schemaOf catalog rules response.body = .error failure := by
  have hentries : ∀ entry : Text × Response,
      (∃ made, (responseEntry catalog rules route.responseContentType entry.2 >>= fun response =>
        pure (entry.1, response) : Except Failure (Text × ResponseEntry)) = .ok made) ↔
      ∃ schema, Synthesis.schemaOf catalog rules entry.2.body = .ok schema := by
    intro entry
    rw [← @exists_responseEntry_iff _ _ route.responseContentType]
    simp [bind_eq_ok_iff, pure, Except.pure]
  unfold ofRoute
  simp only [bind_eq_error_iff, mapM_eq_error_iff, hentries]
  simp only [responseEntry_eq_error_iff, pure, Except.pure, reduceCtorEq, and_false, exists_false,
    or_false, exists_and_right, Prod.exists]

/-- The responses of an operation are those of its route, each with the schema of its body as its
content. -/
theorem responses_of_ofRoute (h : ofRoute catalog rules route = .ok operation) :
    Entries.keys operation.responses = Entries.keys route.responses ∧
      ∀ e ∈ operation.responses, ∃ given ∈ route.responses, ∃ schema,
        Synthesis.schemaOf catalog rules given.2.body = .ok schema ∧
          ⟨given.2.description, given.2.headers, given.2.foreign,
            [(route.responseContentType, schema)]⟩ = e.2 := by
  obtain ⟨parameters, -, h⟩ := bind_eq_ok_iff.mp h
  obtain ⟨responses, hresponses, h⟩ := bind_eq_ok_iff.mp h
  cases h
  have hmade : List.Forall₂ (fun given e => given.1 = e.1 ∧
      responseEntry catalog rules route.responseContentType given.2 = .ok e.2)
      route.responses responses := by
    refine (mapM_eq_ok_iff.mp hresponses).imp fun given e he => ?_
    obtain ⟨entry, hentry, he⟩ := bind_eq_ok_iff.mp he
    cases he
    exact ⟨rfl, hentry⟩
  constructor
  · have hkeys := List.forall₂_map_left_iff.mpr
      (List.forall₂_map_right_iff.mpr (hmade.imp fun _ _ h => h.1))
    exact (List.forall₂_eq_eq_eq ▸ hkeys).symm
  · intro e he
    obtain ⟨given, hgiven, -, hentry⟩ := exists_mem_of_forall₂ hmade he
    exact ⟨given, hgiven, responseEntry_eq_ok_iff.mp hentry⟩

end Operation

/-- A route meets an overlong number: in its request, or behind it in the first of its responses
that has no schema. -/
def Route.Overruns (catalog : Catalog) (rules : List Rule) (route : Route) (digits : Nat) : Prop :=
  Extraction.RequestOverruns catalog rules route.request digits ∨
  (∃ parameters, Extraction.parametersOf catalog rules route.request = .ok parameters) ∧
    ∃ before status response after, route.responses = before ++ (status, response) :: after ∧
      (∀ other ∈ before, ∃ schema, Synthesis.schemaOf catalog rules other.2.body = .ok schema) ∧
      Synthesis.TypeOverruns catalog rules response.body digits

namespace Operation

variable {catalog : Catalog} {rules : List Rule}

theorem ofRoute_eq_oversized_iff {route : Route} {digits : Nat} :
    ofRoute catalog rules route = .error (.oversized digits) ↔
      route.Overruns catalog rules digits := by
  rw [ofRoute_eq_error_iff, Extraction.parametersOf_eq_oversized_iff]
  simp only [Synthesis.schemaOf_eq_oversized_iff]
  rfl

end Operation

end RouteDoc
