import ClusterOperator.Client
import ClusterOperator.Proofs.Documents.Records

/-!
# What the client makes of failures

Whatever is answered over the web, and if nothing is, the client never reports a fault of a
deployment. A write comes too late exactly if the response is a refusal with the code that says so;
nothing else is told apart.

## Main definitions

* `Request.Writes`: the requests that can come too late.

## Main results

* `Request.isFatal_of_accept`, `Client.isFatal_of_answer`: no failure is a fault.
* `Request.accept_eq_conflict`, `Client.answer_eq_conflict`: the writes that come too late.
-/

namespace ClusterOperator

open Web (Message Response)

namespace Client

/-- The code of a refusal of a write that comes too late. -/
def tooLate : Nat := 409

/-- A response that refuses a write because it comes too late. -/
def IsTooLate (reply : Response) : Prop :=
  reply.isFailure = true ∧ (refusal reply).code.val = tooLate

theorem bodyOf_eq_refused {response : Option Response} {why : ApiResponse} :
    bodyOf response = .error (.refused why) ↔
      ∃ reply, response = some reply ∧ reply.isFailure = true ∧ refusal reply = why := by
  cases response with
  | none => exact ⟨nofun, fun ⟨_, h, _⟩ => nomatch h⟩
  | some reply =>
    rw [bodyOf]
    split
    · next hfailure =>
      refine ⟨fun h => ⟨reply, rfl, hfailure, ?_⟩, ?_⟩
      · exact ApiProblem.refused.inj (Except.error.inj h)
      · rintro ⟨_, ⟨⟩, -, rfl⟩
        rfl
    · next hfailure =>
      refine ⟨nofun, ?_⟩
      rintro ⟨_, ⟨⟩, hfailure', -⟩
      exact absurd hfailure' hfailure

theorem decode_ne_refused {α : Type} [Document α] (body : String) (why : ApiResponse) :
    decode α body ≠ .error (.refused why) := fun h => by
  obtain ⟨_, -, h⟩ := mapError_eq_error.mp h
  cases h

/-- What is read from a body is refused only if there is no body. -/
theorem bodyOf_bind_eq_refused {α : Type} {f : String → Except ApiProblem α}
    (hf : ∀ body why, f body ≠ .error (.refused why)) {response : Option Response}
    {why : ApiResponse} :
    (bodyOf response).bind f = .error (.refused why) ↔
      ∃ reply, response = some reply ∧ reply.isFailure = true ∧ refusal reply = why := by
  rw [← bodyOf_eq_refused]
  cases bodyOf response with
  | error problem => exact ⟨fun h => congrArg _ (Except.error.inj h),
      fun h => congrArg _ (Except.error.inj h)⟩
  | ok body => exact ⟨fun h => absurd h (hf body why), nofun⟩

end Client

namespace Request

open Client

variable {r : Request} {response : Option Response} {subject : String}

/-- The requests that can come too late. -/
def Writes (r : Request) : Prop := r.verb = .create ∨ r.verb = .update ∨ r.verb = .updateStatus

/-- What the failure of a write says that came too late. -/
def lateSubject (r : Request) (why : ApiResponse) : String :=
  r.kind.name ++ " " ++ r.space ++ "/" ++ r.name ++ ": " ++ why.message

theorem writeError_eq_conflict {problem : ApiProblem} :
    r.writeError problem = .conflict subject ↔
      ∃ why, problem = .refused why ∧ why.code.val = tooLate ∧ subject = r.lateSubject why := by
  cases problem with
  | refused why =>
    rw [writeError]
    split
    · next hcode =>
      refine ⟨fun h => ⟨why, rfl, hcode, (Error.conflict.inj h).symm⟩, ?_⟩
      rintro ⟨_, ⟨⟩, -, rfl⟩
      rfl
    · next hcode =>
      refine ⟨nofun, ?_⟩
      rintro ⟨_, ⟨⟩, hcode', -⟩
      exact absurd hcode' hcode
  | _ => exact ⟨nofun, fun ⟨_, h, _⟩ => nomatch h⟩

theorem isFatal_writeError (r : Request) (problem : ApiProblem) :
    (r.writeError problem).isFatal = false := by
  unfold writeError
  split
  · split <;> rfl
  · rfl

/-- The result of a write is refused only by the response. -/
theorem accept_of_writes (h : r.Writes) (response : Option Response) :
    ∃ x : Except ApiProblem r.Result, r.accept response = x.mapError r.writeError ∧
      ∀ why, x = .error (.refused why) ↔
        ∃ reply, response = some reply ∧ reply.isFailure = true ∧ refusal reply = why := by
  cases r with
  | create k space o =>
    exact ⟨_, rfl, fun _ => bodyOf_bind_eq_refused fun _ _ => decode_ne_refused _ _⟩
  | update k space o =>
    exact ⟨_, rfl, fun _ => bodyOf_bind_eq_refused fun _ _ => decode_ne_refused _ _⟩
  | updateStatus d =>
    refine ⟨_, rfl, fun why => Iff.trans ?_ (bodyOf_bind_eq_refused (f := decode Declaration)
      fun _ _ => decode_ne_refused _ _)⟩
    cases (bodyOf response).bind (decode Declaration) with
    | error problem => exact ⟨fun h => congrArg _ (Except.error.inj h),
        fun h => congrArg _ (Except.error.inj h)⟩
    | ok stored => exact ⟨nofun, nofun⟩
  | _ => rcases h with h | h | h <;> cases h

/-- A write came too late exactly if the response refuses it with the code that says so. -/
theorem accept_eq_conflict (h : r.Writes) :
    r.accept response = .error (.conflict subject) ↔
      ∃ reply, response = some reply ∧ IsTooLate reply ∧
        subject = r.lateSubject (refusal reply) := by
  obtain ⟨x, haccept, hrefused⟩ := accept_of_writes h response
  rw [haccept, mapError_eq_error]
  constructor
  · rintro ⟨problem, hx, hproblem⟩
    obtain ⟨why, rfl, hcode, hsubject⟩ := writeError_eq_conflict.mp hproblem
    obtain ⟨reply, hresponse, hfailure, rfl⟩ := (hrefused why).mp hx
    exact ⟨reply, hresponse, ⟨hfailure, hcode⟩, hsubject⟩
  · rintro ⟨reply, hresponse, ⟨hfailure, hcode⟩, hsubject⟩
    exact ⟨_, (hrefused _).mpr ⟨reply, hresponse, hfailure, rfl⟩,
      writeError_eq_conflict.mpr ⟨_, rfl, hcode, hsubject⟩⟩

/-- No response makes a fault. -/
theorem isFatal_of_accept {e : Error} (h : r.accept response = .error e) : e.isFatal = false := by
  have hwrite : r.Writes → e.isFatal = false := fun hwrites => by
    obtain ⟨x, haccept, -⟩ := accept_of_writes hwrites response
    obtain ⟨problem, -, rfl⟩ := mapError_eq_error.mp (haccept.symm.trans h)
    exact isFatal_writeError _ problem
  have hread : ∀ {α : Type} {x : Except ApiProblem α}, x.mapError .api = .error e →
      e.isFatal = false := fun h => by
    obtain ⟨problem, -, rfl⟩ := mapError_eq_error.mp h
    rfl
  cases r with
  | create => exact hwrite (.inl rfl)
  | update => exact hwrite (.inr (.inl rfl))
  | updateStatus => exact hwrite (.inr (.inr rfl))
  | list => exact hread h
  | get =>
    rw [accept] at h
    split at h
    · exact hread h
    · split at h <;> cases h
      rfl
    · cases h
      rfl
  | delete =>
    rw [accept] at h
    split at h
    · exact hread h
    · split at h <;> cases h
      rfl
    · cases h
      rfl

end Request

namespace Client

variable {σ : Type} {send : Message → σ → Option Response × σ} {r : Request} {state : σ}

/-- The client never reports a fault. -/
theorem isFatal_of_answer {e : Error} (h : (answer send r state).1 = .error e) :
    e.isFatal = false := by
  rw [answer] at h
  split at h
  · cases h
    rfl
  · exact Request.isFatal_of_accept h

/-- The client reports that a write came too late exactly if it was sent and the response says
so. -/
theorem answer_eq_conflict (h : r.Writes) {subject : String} :
    (answer send r state).1 = .error (.conflict subject) ↔
      ∃ m reply, r.message = .ok m ∧ (send m state).1 = some reply ∧ IsTooLate reply ∧
        subject = r.lateSubject (refusal reply) := by
  rw [answer]
  split
  · next problem hmessage =>
    refine ⟨nofun, ?_⟩
    rintro ⟨m, _, hm, -⟩
    cases hmessage.symm.trans hm
  · next m hmessage =>
    refine (Request.accept_eq_conflict h).trans ⟨?_, ?_⟩
    · rintro ⟨reply, hreply⟩
      exact ⟨m, reply, hmessage, hreply⟩
    · rintro ⟨m', reply, hm, hreply⟩
      cases hmessage.symm.trans hm
      exact ⟨reply, hreply⟩

end Client

end ClusterOperator
