import CoordinatorGateway.Proofs.Json.Objects
import CoordinatorGateway.Proofs.Launch.Refusals

namespace CoordinatorGateway

namespace FailureCode

theorem spelling_eq_label (code : FailureCode) : code.spelling = code.label := by
  cases code <;> decide

theorem status_le_maxWhole (code : FailureCode) : code.status ≤ Json.maxWhole := by
  cases code <;> decide

end FailureCode

theorem Duration.millis64_le_maxWhole (d : Duration) : d.millis64 ≤ Json.maxWhole := by
  have hlt : d.millis % UInt64.size < UInt64.size := Nat.mod_lt _ (by decide)
  exact Nat.le_pred_of_lt hlt

namespace FailureCode

def told (code : FailureCode) (text : String) (retryAfter : Option Duration) : List Json.Member :=
  [("code", .string code.label), ("error", .string text)] ++
    Json.optional "retry_after_ms" (retryAfter.map fun d => .nat d.millis64) ++
    [("status", .nat code.status), ("success", .bool false)]

theorem read_body (code : FailureCode) (text : String) (retryAfter : Option Duration) :
    Json.read (Bytes.ofText (code.body text retryAfter).render) =
      .ok (.object (code.told text retryAfter)) := by
  have hcode := Json.legible_string code.spelling
  have htext := Json.legible_string text
  have hstatus := Json.legible_nat code.status_le_maxWhole
  have hsuccess := Json.legible_bool false
  rw [body, Json.read_render_object, code.spelling_eq_label]
  · cases retryAfter with
    | none =>
      simp only [Json.map, Json.sortMembers, Json.putMember, Json.optional, told, Option.map_none,
        List.append_nil, List.cons_append, List.nil_append, List.foldl_cons, List.foldl_nil,
        String.reduceLT, String.reduceEq, ↓reduceIte]
    | some d =>
      simp only [Json.map, Json.sortMembers, Json.putMember, Json.optional, told, Option.map_some,
        List.cons_append, List.nil_append, List.foldl_cons, List.foldl_nil, String.reduceLT,
        String.reduceEq, ↓reduceIte]
  · cases retryAfter with
    | none => simp [Json.optional, hcode, htext, hstatus, hsuccess]
    | some d =>
      have hdelay := Json.legible_nat d.millis64_le_maxWhole
      simp [Json.optional, hcode, htext, hstatus, hsuccess, hdelay]

end FailureCode

namespace Failure

theorem retryAfter?_isSome_iff (f : Failure) : f.retryAfter?.isSome = true ↔
    ∃ limit window retryAfter, f = .rateLimited limit window retryAfter := by
  cases f <;> simp [retryAfter?]

theorem response_retryAfter (f : Failure) : f.response.header? "retry-after" =
    f.retryAfter?.map fun d => toString d.secondsRoundedUp := by
  rw [response]
  cases f.retryAfter? with
  | none => rfl
  | some d => rfl

/-- An error answer is read back: its body is the object that says what went wrong, of which class
it is and, for a client over its limit alone, when to come back. Headers and status agree. -/
theorem response_readsBack (f : Failure) :
    Json.read (Bytes.ofText f.response.body) =
        .ok (.object ([("code", .string f.code.label), ("error", .string f.message)] ++
          Json.optional "retry_after_ms" (f.retryAfter?.map fun d => .nat d.millis64) ++
          [("status", .nat f.response.status), ("success", .bool false)])) ∧
      f.response.header? "x-gateway-error" = some f.code.label ∧
      f.response.status = f.code.status ∧
      f.response.header? "retry-after" =
        f.retryAfter?.map (fun d => toString d.secondsRoundedUp) ∧
      (f.retryAfter?.isSome = true ↔
        ∃ limit window retryAfter, f = .rateLimited limit window retryAfter) := by
  have htells := f.response_tells
  refine ⟨?_, htells.code, htells.status, f.response_retryAfter, f.retryAfter?_isSome_iff⟩
  rw [htells.body, htells.status]
  exact f.code.read_body f.message f.retryAfter?

end Failure

end CoordinatorGateway
