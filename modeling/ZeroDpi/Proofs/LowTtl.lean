/-
The `low_ttl` value over sequences of successful calls.

What a successful call leaves is read off the one turn of the helper that
answered it (`ask_ok`): the four answers a plane waits for are each the
last frame of a turn after which `serve` goes on. So a plane is `Live` at
a value, a successful apply makes it live at the applied one, and a
successful rebuild keeps the value of a local plane and returns a remote
one to `LOW_TTL_VALUE`, which is what the configuration it sends carries.
-/
import ZeroDpi.Runtime.LowTtl
import ZeroDpi.Proofs.Controller
import ZeroDpi.Proofs.WireMethod

namespace ZeroDpi.Helper

open Lib

-- ====================================================== the one request

namespace RemoteHelperClient

variable {c : RemoteHelperClient} {sent : List Frame} {requestId : UInt32}

/-- No request is under way. -/
structure Idle (c : RemoteHelperClient) : Prop where
  pending : c.pending = []
  answers : c.answers = []

/-- One request is under way: it waits, or its result is there, and then
a message in it is one of `sent`. -/
def Heard (sent : List Frame) (requestId : UInt32)
    (c : RemoteHelperClient) : Prop :=
  (c.pending = [requestId] ∧ c.answers = [])
    ∨ (c.pending = [] ∧ ∃ answer, c.answers = [(requestId, answer)]
      ∧ ∀ message, answer = .ok message → ∃ f ∈ sent, f.message = message)

/-- What was heard stays heard. -/
theorem Heard.disconnect (h : Heard sent requestId c) (reason : String) :
    Heard sent requestId (c.disconnect reason) := by
  unfold RemoteHelperClient.disconnect
  split
  · exact h
  · rcases h with ⟨hpending, hanswers⟩ | ⟨hpending, answer, hanswers, hsent⟩
    · refine .inr ⟨rfl, .error s!"root helper disconnected: {reason}", ?_, ?_⟩
      · show c.answers ++ _ = _
        rw [hpending, hanswers]
        rfl
      · intro message heq
        cases heq
    · refine .inr ⟨rfl, answer, ?_, hsent⟩
      show c.answers ++ _ = _
      rw [hpending, hanswers]
      rfl

/-- A message that answers a request, as the reader takes it. -/
theorem Heard.answered (h : Heard sent requestId c) {f : Frame}
    (hf : f ∈ sent) :
    Heard sent requestId (if c.pending.contains f.requestId then
      { c with
        pending := c.pending.filter (· ≠ f.requestId)
        answers := c.answers.insert f.requestId (.ok f.message) }
      else c) := by
  split
  case isFalse => exact h
  case isTrue hin =>
      have hmem : f.requestId ∈ c.pending := List.contains_iff_mem.mp hin
      rcases h with ⟨hpending, hanswers⟩ | ⟨hpending, -⟩
      · rw [hpending, List.mem_singleton] at hmem
        refine .inr ⟨?_, .ok f.message, ?_, ?_⟩
        · show c.pending.filter _ = []
          rw [hpending, hmem]
          simp
        · show c.answers.insert _ _ = _
          rw [hanswers, hmem]
          rfl
        · intro message heq
          cases heq
          exact ⟨f, hf, rfl⟩
      · rw [hpending] at hmem
        cases hmem

/-- A frame that was sent. -/
theorem Heard.handleFrame (h : Heard sent requestId c) {f : Frame}
    (hf : f ∈ sent) : Heard sent requestId (c.handleFrame f) := by
  obtain ⟨id, message⟩ := f
  cases message with
  | flowProgress flowId progress => exact h
  | helperWarning code text => exact h
  | helperFatal code text => exact h.disconnect text
  | _ => exact h.answered hf

/-- And all of them. -/
theorem Heard.foldl (h : Heard sent requestId c) {frames : List Frame}
    (hframes : ∀ f ∈ frames, f ∈ sent) :
    Heard sent requestId (frames.foldl RemoteHelperClient.handleFrame c) := by
  induction frames generalizing c with
  | nil => exact h
  | cons f frames ih =>
      exact ih (h.handleFrame (hframes f List.mem_cons_self))
        fun g hg => hframes g (List.mem_cons_of_mem f hg)

/-- Taking the result leaves the client idle. -/
theorem Heard.takeAnswer (h : Heard sent requestId c)
    {answer : Except String Message} {c' : RemoteHelperClient}
    (htaken : c.takeAnswer requestId = some (answer, c')) :
    c'.Idle ∧ ∀ message, answer = .ok message →
      ∃ f ∈ sent, f.message = message := by
  unfold RemoteHelperClient.takeAnswer at htaken
  rcases h with ⟨-, hanswers⟩ | ⟨hpending, heard, hanswers, hsent⟩
  · rw [hanswers] at htaken
    cases htaken
  · have hget : c.answers.get? requestId = some heard := by
      rw [hanswers]
      simp [Table.get?]
    have hremove : c.answers.remove requestId = [] := by
      rw [hanswers]
      simp [Table.remove]
    rw [hget] at htaken
    obtain ⟨hanswer, hc'⟩ := Prod.mk.inj (Option.some.inj htaken)
    rw [← hanswer, ← hc']
    exact ⟨⟨hpending, hremove⟩, hsent⟩

/-- So does giving up on it. -/
theorem Heard.timeOut (h : Heard sent requestId c) :
    (c.timeOut requestId).Idle := by
  rcases h with ⟨hpending, hanswers⟩ | ⟨hpending, answer, hanswers, -⟩
  · refine ⟨?_, ?_⟩
    · show c.pending.filter _ = []
      rw [hpending]
      simp
    · show c.answers.remove _ = []
      rw [hanswers]
      rfl
  · refine ⟨?_, ?_⟩
    · show c.pending.filter _ = []
      rw [hpending]
      rfl
    · show c.answers.remove _ = []
      rw [hanswers]
      simp [Table.remove]

end RemoteHelperClient

-- ============================================================ the answer

/-- A turn whose last frame went out goes on as it meant to. -/
theorem answer_session_of_last {env : ServeEnv} {frames : List Frame}
    {last f : Frame} {next : Option Session}
    (hother : ∀ g ∈ frames, g.message ≠ last.message)
    (hf : f ∈ (answer env (frames ++ [last]) next).sent)
    (hlast : f.message = last.message) :
    (answer env (frames ++ [last]) next).session = next := by
  unfold answer at hf ⊢
  split at hf
  case isTrue hfits => rw [if_pos hfits]
  case isFalse hfits =>
      rw [List.length_append, List.length_singleton] at hfits
      have hin : f ∈ (frames ++ [last]).take env.writable := hf
      rw [List.take_append_of_le_length (by omega)] at hin
      exact absurd hlast (hother f (List.mem_of_mem_take hin))

/-- An answer of one frame. -/
theorem answer_session_of_sent {env : ServeEnv} {last f : Frame}
    {next : Option Session} (hf : f ∈ (answer env [last] next).sent)
    (hlast : f.message = last.message) :
    (answer env [last] next).session = next := by
  refine @answer_session_of_last env [] last f next ?_ hf hlast
  intro g hg
  cases hg

/-- A turn that answered one of the four requests of a plane went on. -/
theorem session_of_reply {peer : Peer} {env : ServeEnv} {s : Session}
    {requestId : UInt32} {message : Message} {f : Frame}
    (hf : f ∈ (serveFrame peer env s ⟨requestId, message⟩).sent)
    (hreply : (message = .closeInterceptor ∧ f.message = .interceptorClosed)
      ∨ ((∃ value, message = .configureInterceptor value)
        ∧ f.message = .configured)
      ∨ (message = .openInterceptor ∧ f.message = .interceptorReady)
      ∨ ((∃ value, message = .setLowTtlValue value)
        ∧ f.message = .setLowTtlAck)) :
    ∃ s', (serveFrame peer env s ⟨requestId, message⟩).session = some s' := by
  have hrefused : ∀ code text,
      f ∈ (fatal env requestId code text).sent → False := by
    intro code text hfatal
    rw [answer_one_sent hfatal] at hreply
    simp at hreply
  unfold serveFrame at hf ⊢
  split at hf
  · exact (hrefused _ _ hf).elim
  case isFalse hacc =>
  rw [if_neg hacc]
  rcases hreply with ⟨rfl, hmsg⟩ | ⟨⟨value, rfl⟩, hmsg⟩ | ⟨rfl, hmsg⟩
    | ⟨⟨value, rfl⟩, hmsg⟩
  · cases hclosed : closeInterceptor env s with
    | none =>
        simp only [hclosed] at hf
        cases hf
    | some closed =>
        simp only [hclosed] at hf ⊢
        exact ⟨_, answer_session_of_sent hf hmsg⟩
  · simp only [onConfigure] at hf ⊢
    split at hf
    · refine ⟨_, answer_session_of_last ?_ hf hmsg⟩
      intro g hg
      split at hg
      · rw [List.mem_singleton.mp hg]
        intro heq
        cases heq
      · cases hg
    · cases hf
  · simp only [onOpen] at hf ⊢
    split at hf
    · cases hf
    split at hf
    · cases hf
    split at hf
    · cases hf
    case isFalse hopens =>
        rw [if_neg hopens]
        exact ⟨_, answer_session_of_sent hf hmsg⟩
  · exact ⟨_, answer_session_of_sent hf hmsg⟩

/-- What an open leaves is built from the configuration. -/
theorem onOpen_session {env : ServeEnv} {s s' : Session}
    {requestId : UInt32}
    (h : (onOpen env s requestId).session = some s') :
    ∃ value method, s.config = some value
      ∧ buildWireMethod value.method env.freshSeed = some method
      ∧ s'.interceptor = some { flows := [], method := method }
      ∧ s'.lowTtlHandle = freshLowTtlHandle value.method method := by
  unfold onOpen at h
  split at h
  · cases h
  case h_2 value hconfig =>
  split at h
  · cases h
  case h_2 method hbuilt =>
  split at h
  · cases h
  cases answer_session h
  exact ⟨value, method, hconfig, hbuilt, rfl, rfl⟩

-- ====================================================== the four requests

namespace RemoteFlowController

variable {r r' : RemoteFlowController} {on : Reception}

/-- A turn is heard to its end, and so is the end of `serve`. -/
theorem receive_heard {turn : Served} {requestId : UInt32}
    (h : RemoteHelperClient.Heard turn.sent requestId r.client) :
    RemoteHelperClient.Heard turn.sent requestId (r.receive turn).client := by
  have hfold := h.foldl fun _ hf => hf
  unfold receive
  simp only
  split
  · exact hfold
  · exact hfold.disconnect _

/-- What a request that is not late comes to: nobody handles it, or the
helper gives it a turn. -/
inductive Asked (r : RemoteFlowController) (on : Reception)
    (message : Message) (result : Except String Message)
    (r' : RemoteFlowController) : Prop where
  | unserved {error : String} (hresult : result = .error error)
      (hhelper : r'.helper = r.helper)
  | served {session : Session} {turn : Served}
      (hturn : serveFrame r.peer on.env session
        ⟨r.client.nextRequestId, message⟩ = turn)
      (hhelper : r.helper = some session)
      (hafter : r'.helper = turn.session)
      (hsent : ∀ answer, result = .ok answer →
        ∃ f ∈ turn.sent, f.message = answer)
      (hacked : ∀ s', turn = ⟨some s',
          [⟨r.client.nextRequestId, .setLowTtlAck⟩]⟩ →
        result = .ok .setLowTtlAck)

/-- The acknowledgement of the one request is its result. -/
theorem takeAnswer_acked {c : RemoteHelperClient} (hpending : c.pending = [])
    (hanswers : c.answers = []) (requestId : UInt32) :
    ({ c with pending := [requestId] }.handleFrame
        ⟨requestId, .setLowTtlAck⟩).takeAnswer requestId
      = some (.ok .setLowTtlAck, c) := by
  obtain ⟨pending, answers, flows, flowIds, nextRequestId, nextFlowId,
    disconnected⟩ := c
  cases hpending
  cases hanswers
  simp [RemoteHelperClient.handleFrame, RemoteHelperClient.takeAnswer,
    Table.insert, Table.remove, Table.get?]

/-- An answer in time is the helper's. -/
theorem ask_asked (hidle : r.client.Idle)
    (hlate : on.io = true → on.inTime = true) {message : Message}
    {result : Except String Message} (h : r.ask on message = (result, r')) :
    r'.client.Idle ∧ Asked r on message result r' := by
  unfold ask at h
  rcases r.client.beginRequest_cases on.io message
    with ⟨e, hbegun, -⟩ | ⟨e, hbegun, -⟩ | ⟨hbegun, -⟩
  · rw [hbegun] at h
    cases h
    exact ⟨hidle, .unserved rfl rfl⟩
  · rw [hbegun] at h
    cases h
    exact ⟨⟨hidle.pending, hidle.answers⟩, .unserved rfl rfl⟩
  have hin : on.inTime = true := by
    refine hlate ?_
    cases hio : on.io with
    | true => rfl
    | false =>
        have hrefused : ∃ e, (r.client.beginRequest on.io message).waits
            = .error e := r.client.beginRequest_refused (.inr (.inl hio))
        obtain ⟨e, hrefused⟩ := hrefused
        rw [hbegun] at hrefused
        cases hrefused
  rw [hbegun, hidle.pending] at h
  simp only [hin, if_true] at h
  have hwaits : ∀ sent, RemoteHelperClient.Heard sent r.client.nextRequestId
      r.asking.client := fun sent => .inl ⟨rfl, hidle.answers⟩
  cases hhelper : r.helper with
  | none =>
      have hnobody : r.asking.client.takeAnswer r.client.nextRequestId
          = none := by
        show (r.client.answers.get? _).map _ = none
        rw [hidle.answers]
        rfl
      simp only [serveIn, List.foldl_cons, List.foldl_nil, hhelper] at h
      simp only [asking, hhelper] at hnobody
      rw [hnobody] at h
      cases h
      exact ⟨(hwaits []).timeOut, .unserved rfl hhelper.symm⟩
  | some session =>
      simp only [serveIn, List.foldl_cons, List.foldl_nil, hhelper] at h
      generalize hturn : serveFrame r.peer on.env session
        ⟨r.client.nextRequestId, message⟩ = turn at h
      have hheard := receive_heard (r := r.asking) (hwaits turn.sent)
      have hacked : ∀ s', turn = ⟨some s',
          [⟨r.client.nextRequestId, .setLowTtlAck⟩]⟩ →
          (r.asking.receive turn).client.takeAnswer r.client.nextRequestId
            = some (.ok .setLowTtlAck, r.client.counted) := by
        intro s' heq
        rw [heq]
        exact takeAnswer_acked (c := r.client.counted) hidle.pending
          hidle.answers _
      simp only [asking, hhelper] at hheard hacked
      split at h
      case h_1 answer client htaken =>
          obtain ⟨hidle', hsent⟩ := hheard.takeAnswer htaken
          cases h
          refine ⟨hidle', .served hturn hhelper rfl hsent ?_⟩
          intro s' heq
          have hboth := htaken.symm.trans (hacked s' heq)
          exact (Prod.mk.inj (Option.some.inj hboth)).1
      case h_2 hnone =>
          cases h
          refine ⟨hheard.timeOut, .served hturn hhelper rfl ?_ ?_⟩
          · intro answer heq
            cases heq
          · intro s' heq
            rw [hacked s' heq] at hnone
            cases hnone

/-- An idle client is answered by the one turn its request is given. -/
theorem ask_ok (hidle : r.client.Idle) {message answer : Message}
    (h : r.ask on message = (.ok answer, r')) :
    ∃ requestId session, r.helper = some session
      ∧ r'.helper
        = (serveFrame r.peer on.env session ⟨requestId, message⟩).session
      ∧ (∃ f ∈ (serveFrame r.peer on.env session
          ⟨requestId, message⟩).sent, f.message = answer)
      ∧ r'.client.Idle := by
  have hlate : on.io = true → on.inTime = true := by
    intro _
    cases hin : on.inTime with
    | true => rfl
    | false =>
        simp only [ask, hin] at h
        split at h
        · cases h
        · cases h
  obtain ⟨hidle', hasked⟩ := ask_asked hidle hlate h
  cases hasked with
  | unserved hresult _ => cases hresult
  | served hturn hhelper hafter hsent _ =>
      subst hturn
      exact ⟨_, _, hhelper, hafter, hsent answer rfl, hidle'⟩

/-- Of the kind that was asked for. -/
theorem expect_ok (hidle : r.client.Idle) {what : String}
    {message expected : Message}
    (h : r.expect on what message expected = (.ok (), r')) :
    ∃ requestId session, r.helper = some session
      ∧ r'.helper
        = (serveFrame r.peer on.env session ⟨requestId, message⟩).session
      ∧ (∃ f ∈ (serveFrame r.peer on.env session
          ⟨requestId, message⟩).sent, f.message = expected)
      ∧ r'.client.Idle := by
  unfold expect at h
  split at h
  · cases h
  case h_2 answer asked hask =>
  split at h
  case isFalse => cases h
  case isTrue hexpected =>
      subst hexpected
      cases h
      exact ask_ok hidle hask

/-- The helper has the value. -/
theorem setLowTtlValue_ok (hidle : r.client.Idle) {value : UInt8}
    (h : r.setLowTtlValue on value = (.ok (), r')) :
    ∃ session, r.helper = some session
      ∧ r'.helper = some { session with
          lowTtlHandle := session.lowTtlHandle.map fun _ => value }
      ∧ r'.client.Idle := by
  obtain ⟨requestId, session, hhelper, hafter, ⟨f, hf, hmsg⟩, hidle'⟩ :=
    expect_ok hidle h
  obtain ⟨s', hs'⟩ := session_of_reply hf
    (.inr (.inr (.inr ⟨⟨value, rfl⟩, hmsg⟩)))
  rw [hs'] at hafter
  cases serveFrame_case hs' with
  | setLowTtl hstate => exact ⟨session, hhelper, hafter, hidle'⟩

/-- An update that fails, and was not late, was not made, or the helper is
gone. -/
theorem setLowTtlValue_failed (hidle : r.client.Idle)
    (hlate : on.io = true → on.inTime = true) {value : UInt8} {error : String}
    (h : r.setLowTtlValue on value = (.error error, r')) :
    r'.client.Idle ∧ (r'.helper = r.helper ∨ r'.helper = none) := by
  unfold setLowTtlValue expect at h
  cases hask : r.ask on (.setLowTtlValue value) with
  | mk result asked =>
  obtain ⟨hidle', hasked⟩ := ask_asked hidle hlate hask
  have hr' : asked = r' ∧ result ≠ .ok .setLowTtlAck := by
    rw [hask] at h
    cases result with
    | error e =>
        cases h
        exact ⟨rfl, nofun⟩
    | ok answer =>
        simp only at h
        split at h
        · cases h
        case isFalse hother =>
            cases h
            refine ⟨rfl, ?_⟩
            intro heq
            exact hother (Except.ok.inj heq)
  obtain ⟨rfl, hresult⟩ := hr'
  refine ⟨hidle', ?_⟩
  cases hasked with
  | unserved _ hhelper => exact .inl hhelper
  | @served session turn hturn _ hafter _ hacked =>
      refine .inr ?_
      rw [hafter]
      cases hgoes : turn.session with
      | none => rfl
      | some s' =>
          -- the update was made and acknowledged
          refine absurd (hacked s' ?_) hresult
          rw [← hturn] at hgoes ⊢
          unfold serveFrame at hgoes ⊢
          split at hgoes
          · exact (fatal_session hgoes).elim
          case isFalse hacc =>
              rw [if_neg hacc]
              simp only [answer] at hgoes ⊢
              split at hgoes
              case isTrue hfits =>
                  rw [if_pos hfits]
                  cases hgoes
                  rfl
              case isFalse => cases hgoes

/-- A close that succeeds. -/
theorem close_ok (hidle : r.client.Idle)
    (h : r.close on = (.ok (), r')) : r'.client.Idle := by
  obtain ⟨-, -, -, -, -, hidle'⟩ := expect_ok hidle h
  exact hidle'

/-- A configuration that does. -/
theorem configure_ok (hidle : r.client.Idle) {config : InterceptorConfig}
    (h : r.configure on config = (.ok (), r')) :
    r'.client.Idle
      ∧ ∀ session, r'.helper = some session
        → session.config = some config := by
  obtain ⟨requestId, session, hhelper, hafter, ⟨f, hf, hmsg⟩, hidle'⟩ :=
    expect_ok hidle h
  refine ⟨hidle', ?_⟩
  intro s' hs'
  rw [hs'] at hafter
  cases serveFrame_case hafter.symm with
  | configure hstate => rfl

/-- An open builds the method, and its handle, from the configuration. -/
theorem openInterceptor_ok (hidle : r.client.Idle)
    {config : InterceptorConfig}
    (hconfig : ∀ session, r.helper = some session
      → session.config = some config)
    (h : r.openInterceptor on = (.ok (), r')) :
    r'.client.Idle ∧ ∃ session freshSeed method,
      r'.helper = some session
        ∧ buildWireMethod config.method freshSeed = some method
        ∧ session.interceptor = some { flows := [], method := method }
        ∧ session.lowTtlHandle
          = freshLowTtlHandle config.method method := by
  obtain ⟨requestId, session, hhelper, hafter, ⟨f, hf, hmsg⟩, hidle'⟩ :=
    expect_ok hidle h
  obtain ⟨s', hs'⟩ := session_of_reply hf (.inr (.inr (.inl ⟨rfl, hmsg⟩)))
  have hopen : (onOpen on.env session requestId).session = some s' := by
    unfold serveFrame at hs'
    split at hs'
    · exact (fatal_session hs').elim
    · exact hs'
  obtain ⟨value, method, hvalue, hbuilt, hactive, hhandle⟩ :=
    onOpen_session hopen
  rw [hconfig session hhelper] at hvalue
  cases hvalue
  refine ⟨hidle', s', on.env.freshSeed, method, ?_, hbuilt, hactive,
    hhandle⟩
  rw [hafter, hs']

end RemoteFlowController

end ZeroDpi.Helper

namespace ZeroDpi.Runtime

open Lib Helper

-- ============================================================ the member

/-- The method has a `low_ttl` member. -/
def StampsTtl (method : CompositeMethod Member) : Prop :=
  ∃ m, .lowTtl m ∈ method.handshakeMethods

/-- A search among answers that agree finds the one they agree on. -/
theorem findSome?_of_agree {α β : Type} {f : α → Option β} {l : List α}
    {x : α} {b : β} (hx : x ∈ l) (hfound : f x = some b)
    (hagree : ∀ y ∈ l, ∀ c, f y = some c → c = b) :
    l.findSome? f = some b := by
  cases hsearch : l.findSome? f with
  | none =>
      rw [List.findSome?_eq_none_iff.mp hsearch x hx] at hfound
      cases hfound
  | some c =>
      obtain ⟨y, hy, hc⟩ := List.exists_of_findSome?_eq_some hsearch
      rw [hagree y hy c hc]

/-- The handle of a fresh method holds the configured value. -/
theorem lowTtlHandle_eq {cfg : Config} {method : CompositeMethod Member}
    (h : StampsTtl method) :
    lowTtlHandle cfg method = some cfg.lowTtlValue := by
  obtain ⟨m, hm⟩ := h
  refine findSome?_of_agree hm rfl ?_
  intro y _ c hc
  cases y with
  | lowTtl _ =>
      cases hc
      rfl
  | _ => cases hc

/-- The method is in the chain. -/
theorem stampsTtl_of_built {cfg : Config} {freshSeed : MethodName → UInt64}
    {method : CompositeMethod Member}
    (hbuilt : buildMethod cfg freshSeed = some method)
    (hlow : .lowTtl ∈ cfg.bypassMethod) : StampsTtl method := by
  refine ⟨.new cfg, ?_⟩
  rw [(build_spec hbuilt).handshakeMethods]
  exact List.mem_filterMap.mpr ⟨.lowTtl, hlow, rfl⟩

-- ======================================================== a live handler

namespace Plane

variable {cfg : Config} {p p' : Plane} {ttl : UInt8}

/-- A handler with a `low_ttl` member runs, and its handle holds `ttl`. -/
inductive Live : Plane → UInt8 → Prop where
  | desktop {plane : MethodPlane} {ttl : UInt8}
      (hhandle : plane.lowTtlHandle = some ttl)
      (hhandler : plane.handler = some plane.method)
      (hstamps : StampsTtl plane.method) : Live (.desktop plane) ttl
  | android {r : RemoteFlowController} {session : Session}
      {active : InterceptorSession} {ttl : UInt8}
      (hidle : r.client.Idle) (hhelper : r.helper = some session)
      (hactive : session.interceptor = some active)
      (hhandle : session.lowTtlHandle = some ttl)
      (hstamps : StampsTtl active.method) : Live (.android r) ttl

/-- A plane that is live stamps its value. -/
theorem Live.running (h : Live p ttl) :
    ∃ method, p.running = some (method, some ttl) ∧ StampsTtl method := by
  cases h with
  | @desktop plane _ hhandle hhandler hstamps =>
      refine ⟨plane.method, ?_, hstamps⟩
      show Option.map _ plane.handler = _
      rw [hhandler, hhandle]
      rfl
  | @android r session active _ _ hhelper hactive hhandle hstamps =>
      refine ⟨active.method, ?_, hstamps⟩
      simp only [Plane.running, hhelper, Option.bind_eq_bind,
        Option.bind_some, hactive, hhandle]
      rfl

/-- Every flow is stamped with its override or the handle's value. -/
theorem Live.stampedTtl (h : Live p ttl) (rngState : UInt64)
    (flow : FlowState) (pkt : PacketView) :
    p.stampedTtl rngState flow pkt
      = some (flow.lowTtlOverride.getD ttl) := by
  obtain ⟨method, hrunning, m, hm⟩ := h.running
  have hstamp : ∀ m : LowTtl, ((m.onHandshakeCompleteAck ⟨ttl, rngState⟩ flow
      pkt).toOption.bind (·.2.newIpv4Ttl))
        = some (flow.lowTtlOverride.getD ttl) :=
    fun _ => rfl
  unfold Plane.stampedTtl
  rw [hrunning]
  refine findSome?_of_agree hm (hstamp m) ?_
  intro y _ c hc
  cases y with
  | lowTtl m' => exact (Option.some.inj ((hstamp m').symm.trans hc)).symm
  | _ => cases hc

-- ======================================================= successful calls

/-- A remote plane that was configured and opened is live at
`LOW_TTL_VALUE`. -/
theorem live_of_prepared (hvalid : cfg.ValidList)
    (hlow : .lowTtl ∈ cfg.bypassMethod)
    {r configured r' : RemoteFlowController}
    {interfaceIp : Ipv4Addr} {onConfigure onOpen : Reception}
    (hidle : r.client.Idle)
    (hconfigure : r.configure onConfigure
      (interceptorConfig cfg interfaceIp none connectPort)
        = (.ok (), configured))
    (hopen : configured.openInterceptor onOpen = (.ok (), r')) :
    Live (.android r') cfg.lowTtlValue := by
  obtain ⟨hidle, hconfig⟩ :=
    RemoteFlowController.configure_ok hidle hconfigure
  obtain ⟨hidle', session, freshSeed, method, hhelper, hbuilt, hactive,
    hhandle⟩ := RemoteFlowController.openInterceptor_ok hidle hconfig hopen
  have hbuilt : buildMethod (helperConfig cfg) freshSeed = some method :=
    hbuilt
  have hstamps : StampsTtl method := by
    refine stampsTtl_of_built hbuilt ?_
    rw [helperConfig_bypassMethod hvalid]
    exact hlow
  have hhandle : session.lowTtlHandle
      = lowTtlHandle (helperConfig cfg) method := hhandle
  exact .android hidle' hhelper hactive
    (hhandle.trans (lowTtlHandle_eq hstamps)) hstamps

/-- From the start on, -/
theorem Started.live (h : Started cfg p) (hvalid : cfg.ValidList)
    (hlow : .lowTtl ∈ cfg.bypassMethod) : Live p cfg.lowTtlValue := by
  cases h with
  | desktop hbuilt =>
      have hstamps := stampsTtl_of_built hbuilt hlow
      exact .desktop (lowTtlHandle_eq hstamps) rfl hstamps
  | android hready =>
      unfold prepareRemote at hready
      split at hready
      · cases hready
      case h_2 hconfigure =>
          exact live_of_prepared hvalid hlow ⟨rfl, rfl⟩ hconfigure hready

/-- A rebuild of a remote plane ends like its start. -/
theorem live_of_rebuilt (hvalid : cfg.ValidList)
    (hlow : .lowTtl ∈ cfg.bypassMethod) {r r' : RemoteFlowController}
    {binding : InterfaceBinding} {on : Rebuilding} (hidle : r.client.Idle)
    (h : rebuildRemote cfg r binding on = (.ok (), r')) :
    Live (.android r') cfg.lowTtlValue := by
  unfold rebuildRemote at h
  split at h
  · cases h
  case h_2 closed hclose =>
  split at h
  · cases h
  case h_2 hconfigure =>
  have hidle := RemoteFlowController.close_ok hidle hclose
  have hreset : closed.client.reset.Idle := ⟨hidle.pending, hidle.answers⟩
  exact live_of_prepared hvalid hlow hreset hconfigure h

/-- A successful apply, on either plane. -/
theorem Live.apply (h : Live p ttl) {on : Reception} {value : UInt8}
    (happly : p.apply on value = (true, p')) : Live p' value := by
  cases h with
  | desktop hhandle hhandler hstamps =>
      cases happly
      refine .desktop ?_ hhandler hstamps
      show Option.map _ _ = _
      rw [hhandle]
      rfl
  | @android r session active _ hidle hhelper hactive hhandle hstamps =>
      unfold Plane.apply at happly
      simp only at happly
      obtain ⟨hok, hp'⟩ := Prod.mk.inj happly
      rw [← hp']
      cases hset : r.setLowTtlValue on value with
      | mk result r' =>
      rw [hset] at hok
      cases result with
      | error e => cases hok
      | ok _ =>
          obtain ⟨session', hhelper', hafter, hidle'⟩ :=
            RemoteFlowController.setLowTtlValue_ok hidle hset
          rw [hhelper] at hhelper'
          cases hhelper'
          refine .android hidle' hafter hactive ?_ hstamps
          show Option.map _ _ = _
          rw [hhandle]
          rfl

/-- What a call leaves in the handle: a rebuild of a remote plane starts
over from the configuration. -/
def Call.held (cfg : Config) (remote : Bool) (ttl : UInt8) : Call → UInt8
  | .apply value _ => value
  | .rebuild _ _ => if remote then cfg.lowTtlValue else ttl

/-- A successful rebuild. -/
theorem Live.rebuild (h : Live p ttl) (hvalid : cfg.ValidList)
    (hlow : .lowTtl ∈ cfg.bypassMethod) {binding : InterfaceBinding}
    {on : Rebuilding} (hrebuild : p.rebuild cfg binding on = (.ok (), p')) :
    Live p' (if p.isRemote then cfg.lowTtlValue else ttl)
      ∧ p'.isRemote = p.isRemote := by
  cases h with
  | @desktop plane _ hhandle hhandler hstamps =>
      unfold Plane.rebuild MethodPlane.rebuild at hrebuild
      simp only at hrebuild
      cases hstop : on.stop with
      | error e =>
          rw [hstop] at hrebuild
          cases hrebuild
      | ok _ =>
      rw [hstop] at hrebuild
      cases hopening : on.opening with
      | openFailed e =>
          rw [hopening] at hrebuild
          cases hrebuild
      | spawnFailed e =>
          rw [hopening] at hrebuild
          cases hrebuild
      | opened =>
          rw [hopening] at hrebuild
          cases hrebuild
          exact ⟨.desktop hhandle rfl hstamps, rfl⟩
  | @android r session active _ hidle hhelper hactive hhandle hstamps =>
      obtain ⟨hok, hp'⟩ := Prod.mk.inj hrebuild
      rw [← hp']
      exact ⟨live_of_rebuilt hvalid hlow hidle (Prod.ext hok rfl), rfl⟩

/-- and over every call that succeeds. -/
theorem Live.succeeds (h : Live p ttl) (hvalid : cfg.ValidList)
    (hlow : .lowTtl ∈ cfg.bypassMethod) {call : Call}
    (hcall : Succeeds cfg p call p') :
    Live p' (call.held cfg p.isRemote ttl) ∧ p'.isRemote = p.isRemote := by
  cases hcall with
  | apply happly =>
      refine ⟨h.apply happly, ?_⟩
      cases p with
      | desktop plane =>
          cases happly
          rfl
      | android r =>
          obtain ⟨-, hp'⟩ := Prod.mk.inj happly
          rw [← hp']
          rfl
  | rebuild hrebuild => exact h.rebuild hvalid hlow hrebuild

/-- What a sequence of successful calls leaves in the handle. -/
theorem Live.run {start : Plane} {calls : List Call}
    (h : Live start ttl) (hvalid : cfg.ValidList)
    (hlow : .lowTtl ∈ cfg.bypassMethod)
    (hrun : Run (Succeeds cfg) start calls p) :
    Live p (calls.foldl (Call.held cfg start.isRemote) ttl) := by
  have hinv : Live p (calls.foldl (Call.held cfg start.isRemote) ttl)
      ∧ p.isRemote = start.isRemote := by
    refine Run.invariant_fold
      (P := fun v p => Live p v ∧ p.isRemote = start.isRemote) ?_ hrun
      ⟨h, rfl⟩
    intro v p call p' hp hcall
    obtain ⟨hlive, hkind⟩ := hp
    obtain ⟨hlive', hkind'⟩ := hlive.succeeds hvalid hlow hcall
    rw [hkind] at hlive' hkind'
    exact ⟨hlive', hkind'⟩
  exact hinv.1

-- ========================================================== whole sequences

/-- Every rebuild is followed by an apply, sooner or later. -/
def Reapplied (calls : List Call) : Prop :=
  ∀ before binding on after, calls = before ++ .rebuild binding on :: after →
    ∃ value onApply, .apply value onApply ∈ after

/-- Behind a rebuild the value is the config's. -/
theorem not_reapplied_rebuild (calls : List Call)
    (binding : InterfaceBinding) (on : Rebuilding) :
    ¬ Reapplied (calls ++ [.rebuild binding on]) := by
  intro h
  obtain ⟨value, onApply, hmem⟩ := h calls binding on [] rfl
  cases hmem

/-- Behind an apply it is the applied one. -/
theorem reapplied_apply (calls : List Call) (value : UInt8)
    (on : Reception) : Reapplied (calls ++ [.apply value on]) := by
  intro before binding onRebuild after heq
  refine ⟨value, on, ?_⟩
  rcases List.eq_nil_or_concat after with rfl | ⟨init, last, rfl⟩
  · cases (List.append_inj' heq rfl).2
  · rw [List.concat_eq_append] at heq ⊢
    have hlast : calls ++ [.apply value on]
        = (before ++ .rebuild binding onRebuild :: init) ++ [last] := by
      rw [heq, List.append_assoc]
      rfl
    cases (List.append_inj' hlast rfl).2
    exact List.mem_append_right init List.mem_cons_self

/-- A local handle holds what was last applied. -/
theorem foldl_held_local (cfg : Config) (calls : List Call) :
    calls.foldl (Call.held cfg false) cfg.lowTtlValue
      = lastApplied cfg calls := by
  refine congrArg (fun f => List.foldl f cfg.lowTtlValue calls) ?_
  funext ttl call
  cases call with
  | apply value on => rfl
  | rebuild binding on => rfl

/-- The helper's handle holds it unless a rebuild came after it. -/
theorem foldl_held_remote_iff (cfg : Config) (calls : List Call) :
    calls.foldl (Call.held cfg true) cfg.lowTtlValue
        = lastApplied cfg calls
      ↔ lastApplied cfg calls = cfg.lowTtlValue ∨ Reapplied calls := by
  rcases List.eq_nil_or_concat calls with rfl | ⟨init, last, rfl⟩
  · exact iff_of_true rfl (.inl rfl)
  unfold lastApplied
  rw [List.concat_eq_append, List.foldl_append, List.foldl_append]
  cases last with
  | apply value on => exact iff_of_true rfl (.inr (reapplied_apply _ _ _))
  | rebuild binding on =>
      rw [or_iff_left (not_reapplied_rebuild init binding on)]
      exact eq_comm

/-- After every sequence of successful applies and rebuilds, the fake of a
flow without an override carries the last applied TTL exactly if the plane
is local, or the last applied TTL is the configured one anyway, or
something was applied after every rebuild. -/
theorem discovered_ttl_survives_iff {start : Plane} {calls : List Call}
    (hvalid : cfg.validate = .ok ()) (hlow : .lowTtl ∈ cfg.bypassMethod)
    (hstart : Started cfg start)
    (hrun : Run (Succeeds cfg) start calls p) :
    (∀ rngState flow pkt, flow.lowTtlOverride = none →
      p.stampedTtl rngState flow pkt = some (lastApplied cfg calls))
    ↔ start.isRemote = false ∨ lastApplied cfg calls = cfg.lowTtlValue
      ∨ Reapplied calls := by
  have hlist := Config.validList hvalid
  have hlive := (hstart.live hlist hlow).run hlist hlow hrun
  have hstamps : (∀ rngState flow pkt, flow.lowTtlOverride = none →
        p.stampedTtl rngState flow pkt = some (lastApplied cfg calls))
      ↔ calls.foldl (Call.held cfg start.isRemote) cfg.lowTtlValue
        = lastApplied cfg calls := by
    constructor
    · intro h
      have hprobe := h 0 probeFlow probe.view rfl
      rw [hlive.stampedTtl] at hprobe
      exact Option.some.inj hprobe
    · intro h rngState flow pkt hflow
      rw [hlive.stampedTtl, hflow, h]
      rfl
  rw [hstamps]
  cases hremote : start.isRemote with
  | false => exact iff_of_true (foldl_held_local cfg calls) (.inl rfl)
  | true =>
      rw [foldl_held_remote_iff]
      simp

/-- `low_ttl` alone, with the other settings at their defaults. -/
def lowTtlConfig : Config := { bypassMethod := [.lowTtl] }

/-- A binding. -/
def wifi : InterfaceBinding := ⟨0x0A000001, 3, "wlan0"⟩

/-- A remote plane with a helper that answers everything. -/
def prepared : Plane :=
  .android (prepareRemote lowTtlConfig
    (.connected { proof := [], peerPid := 42, peerUid := 10001,
                  helperPid := 77, helperUid := 0 }) wifi {}).2

/-- The plane of the example. -/
theorem prepared_started : Started lowTtlConfig prepared :=
  .android (Prod.ext rfl rfl)

/-- Discovery finds 9, and the uplink changes. -/
def discoverThenRebuild : List Call := [.apply 9 {}, .rebuild wifi {}]

/-- The plane after these calls. -/
def forgetful : Plane :=
  ((prepared.apply {} 9).2.rebuild lowTtlConfig wifi {}).2

/-- It forgets what was discovered. -/
theorem forgetful_run :
    Run (Succeeds lowTtlConfig) prepared discoverThenRebuild forgetful :=
  .cons (.apply (Prod.ext rfl rfl)) <|
  .cons (.rebuild (Prod.ext rfl rfl)) <|
  .nil _

/-- Discovery runs again on the new uplink. -/
def discoverAgain : List Call := discoverThenRebuild ++ [.apply 7 {}]

/-- And does not, if it is discovered again. -/
theorem discoverAgain_run :
    Run (Succeeds lowTtlConfig) prepared discoverAgain
      (forgetful.apply {} 7).2 :=
  .cons (.apply (Prod.ext rfl rfl)) <|
  .cons (.rebuild (Prod.ext rfl rfl)) <|
  .cons (.apply (Prod.ext rfl rfl)) <|
  .nil _

/-- Its value is stamped. -/
theorem sample_ttl_survives :
    lowTtlConfig.validate = .ok ()
      ∧ ∀ rngState flow pkt, flow.lowTtlOverride = none →
        (forgetful.apply {} 7).2.stampedTtl rngState flow pkt = some 7 :=
  ⟨rfl, (discovered_ttl_survives_iff rfl List.mem_cons_self
    prepared_started discoverAgain_run).mpr
      (.inr (.inr (reapplied_apply discoverThenRebuild 7 {})))⟩

/-- Without that, the helper is back at `LOW_TTL_VALUE`, and 9 is gone. -/
theorem rebuild_forgets_ttl :
    lowTtlConfig.validate = .ok ()
      ∧ .lowTtl ∈ lowTtlConfig.bypassMethod
      ∧ Started lowTtlConfig prepared
      ∧ Run (Succeeds lowTtlConfig) prepared discoverThenRebuild forgetful
      ∧ lastApplied lowTtlConfig discoverThenRebuild = 9
      ∧ probeFlow.lowTtlOverride = none
      ∧ forgetful.stampedTtl 0 probeFlow probe.view = some 5 :=
  ⟨rfl, List.mem_cons_self, prepared_started, forgetful_run, rfl, rfl, rfl⟩

end Plane

end ZeroDpi.Runtime
