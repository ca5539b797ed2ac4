import RequestLine.Proofs.Asking

/-!
# What replies keep back

A call whose line is accepted may still fail: no request can be built, the transport fails or breaks
down, or the answer is no success. The reply is then the same whatever the call was about and
whatever went wrong, and a line with a fault is answered without regard to the transport
(`replies_reveal_no_cause`).

All of it is read off `Settled`, so it holds for single calls and for every turn of a session. Two
sessions are compared turn by turn, each with what its own transport was asked so far (`AlikeRuns`).
-/

namespace RequestLine.Service

/-! ## How calls go -/

/-- A call hands in a line that is accepted. -/
def Describes (c : Call) (d : Descriptor) : Prop :=
  c.route = .execute ∧ ∃ payload, c.payload = .ok payload ∧ (submission payload).outcome = .ok d

/-- A call hands in a line that is rejected. -/
def Rejected (c : Call) (f : Line.Fault) : Prop :=
  c.route = .execute ∧ ∃ payload, c.payload = .ok payload ∧ (submission payload).outcome = .error f

/-- What an accepted line describes is not carried out with success. -/
inductive Fails (deliver : WireRequest → Delivery) (d : Descriptor) : Prop
  | unbuilt (failure : Failure) (hprepare : d.prepare = .error failure)
  | undelivered (p : Prepared) (cause : Undelivered) (hprepare : d.prepare = .ok p)
    (hdelivery : deliver p.wire = .undelivered cause)
  | unsuccessful (p : Prepared) (a : Answer) (hprepare : d.prepare = .ok p)
    (hdelivery : deliver p.wire = .answered a) (hstatus : ¬Succeeds a.status)

/-- What is described is carried out with success, or it fails in one of the ways. -/
theorem fails_or_succeeds (deliver : WireRequest → Delivery) (d : Descriptor) :
    Fails deliver d ∨
      ∃ p a, d.prepare = .ok p ∧ deliver p.wire = .answered a ∧ Succeeds a.status := by
  cases hprepare : d.prepare with
  | error failure => exact .inl (.unbuilt failure hprepare)
  | ok p =>
    cases hdelivery : deliver p.wire with
    | undelivered cause => exact .inl (.undelivered p cause hprepare hdelivery)
    | answered a =>
      by_cases hstatus : Succeeds a.status
      · exact .inr ⟨p, a, rfl, hdelivery, hstatus⟩
      · exact .inl (.unsuccessful p a hprepare hdelivery hstatus)

theorem Fails.not_succeeds {deliver : WireRequest → Delivery} {d : Descriptor} {p : Prepared}
    {a : Answer} (h : Fails deliver d) (hprepare : d.prepare = .ok p)
    (hdelivery : deliver p.wire = .answered a) : ¬Succeeds a.status := by
  cases h with
  | unbuilt failure herror =>
    rw [hprepare] at herror
    cases herror
  | undelivered q cause hq hcause =>
    cases hprepare.symm.trans hq
    cases hdelivery.symm.trans hcause
  | unsuccessful q b hq hb hstatus =>
    cases hprepare.symm.trans hq
    cases hdelivery.symm.trans hb
    exact hstatus

/-- An accepted line describes one thing only. -/
theorem Describes.prepare_of_accepted {c : Call} {d : Descriptor} {p : Prepared}
    (h : Describes c d) (hp : Accepted c p) : d.prepare = .ok p := by
  obtain ⟨-, payload, hpayload, houtcome⟩ := h
  obtain ⟨-, payload', d', hpayload', houtcome', hprepare⟩ := hp
  cases hpayload.symm.trans hpayload'
  cases houtcome.symm.trans houtcome'
  exact hprepare

theorem Describes.accepted {c : Call} {d : Descriptor} {p : Prepared} (h : Describes c d)
    (hprepare : d.prepare = .ok p) : Accepted c p := by
  obtain ⟨hroute, payload, hpayload, houtcome⟩ := h
  exact ⟨hroute, payload, d, hpayload, houtcome, hprepare⟩

/-! ## One turn -/

section

variable {deliver : History → WireRequest → Delivery} {before : History} {timing : Timing}
  {c : Call} {turn : Turn}

/-- However a description fails, the reply is the same. -/
theorem Settled.reply_of_fails (hturn : Settled deliver before timing c turn) {d : Descriptor}
    (hd : Describes c d) (hfails : Fails (deliver before) d) :
    turn.reply = refusal Service.unexplained := by
  have hother : turn.reply.status ≠ 200 := by
    intro hok
    obtain ⟨p, a, hp, hdelivery, hstatus⟩ := (hturn.ok_iff hd.1).1 hok
    exact hfails.not_succeeds (hd.prepare_of_accepted hp) hdelivery hstatus
  obtain ⟨hroute, payload, hpayload, houtcome⟩ := hd
  exact hturn.unexplained hroute payload d hpayload houtcome hother

/-- What does not fail is answered with a report. -/
theorem Settled.status_of_not_fails (hturn : Settled deliver before timing c turn)
    {d : Descriptor} (hd : Describes c d) (hfails : ¬Fails (deliver before) d) :
    turn.reply.status = 200 := by
  rcases fails_or_succeeds (deliver before) d with h | ⟨p, a, hprepare, hdelivery, hstatus⟩
  · exact absurd h hfails
  · exact (hturn.ok_iff hd.1).2 ⟨p, a, hd.accepted hprepare, hdelivery, hstatus⟩

theorem Settled.reply_of_rejected (hturn : Settled deliver before timing c turn) {f : Line.Fault}
    (hf : Rejected c f) : turn.reply = refusal f.message := by
  obtain ⟨hroute, payload, hpayload, houtcome⟩ := hf
  exact hturn.explained hroute payload f hpayload houtcome

end

/-- A single call is a turn with a transport that does not look back. -/
theorem exists_settled_handle (transport : Transport) (timing : Timing) (c : Call) :
    ∃ turn, Settled (fun _ => transport.deliver) [] timing c turn ∧
      (handle transport timing c).reply = turn.reply := by
  have hturn := settled_run (fun _ => transport.deliver) [] timing c
  exact ⟨_, hturn, (hturn.handled transport rfl).1⟩

/-! ## Two runs -/

/-- Two calls that replies must not tell apart, each with the transport as it is then: both fail
after their lines were accepted, or it is one call whose line is rejected. -/
inductive Alike (deliver deliver' : WireRequest → Delivery) : Call → Call → Prop
  | failing {c c' : Call} {d d' : Descriptor} : Describes c d → Fails deliver d →
    Describes c' d' → Fails deliver' d' → Alike deliver deliver' c c'
  | rejected {c : Call} {f : Line.Fault} : Rejected c f → Alike deliver deliver' c c

/-- Two sessions of calls that are alike in every turn. -/
inductive AlikeRuns (deliver deliver' : History → WireRequest → Delivery) :
    History → History → List (Timing × Call) → List (Timing × Call) → Prop
  | nil {before before' : History} : AlikeRuns deliver deliver' before before' [] []
  | cons {before before' : History} {timing timing' : Timing} {c c' : Call}
    {calls calls' : List (Timing × Call)} :
    Alike (deliver before) (deliver' before') c c' →
    AlikeRuns deliver deliver' (before ++ ((c.work timing).run deliver before).asked)
      (before' ++ ((c'.work timing').run deliver' before').asked) calls calls' →
    AlikeRuns deliver deliver' before before' ((timing, c) :: calls) ((timing', c') :: calls')

section

variable {deliver deliver' : History → WireRequest → Delivery} {before before' : History}

/-- Calls that are alike get the same reply. -/
theorem Alike.reply_eq {timing timing' : Timing} {c c' : Call} {turn turn' : Turn}
    (h : Alike (deliver before) (deliver' before') c c')
    (hturn : Settled deliver before timing c turn)
    (hturn' : Settled deliver' before' timing' c' turn') : turn.reply = turn'.reply := by
  cases h with
  | failing hd hfails hd' hfails' =>
    rw [hturn.reply_of_fails hd hfails, hturn'.reply_of_fails hd' hfails']
  | rejected hf => rw [hturn.reply_of_rejected hf, hturn'.reply_of_rejected hf]

/-- Sessions that are alike get the same replies. By induction along the two runs, each with its own
history. -/
theorem AlikeRuns.replies_eq {calls calls' : List (Timing × Call)}
    (h : AlikeRuns deliver deliver' before before' calls calls') :
    (session deliver before calls).map Turn.reply =
      (session deliver' before' calls').map Turn.reply := by
  induction h with
  | nil => rfl
  | @cons before before' timing timing' c c' calls calls' halike _ ih =>
    -- the histories differ from here on, but `ih` is about whatever they are
    have hreply := halike.reply_eq (settled_run deliver before timing c)
      (settled_run deliver' before' timing' c')
    simp only [session, List.map_cons, hreply, ih]

end

/-- Calls that fail after their lines were accepted have the same reply, whatever they are about,
whatever goes wrong and whichever transports they use; nothing but a failure has it. A call whose
line is rejected has the same reply with every transport. Nor does a whole session of such calls
reveal anything, with transports that look at all they were asked before. -/
theorem replies_reveal_no_cause :
    (∀ (transport transport' : Transport) (timing timing' : Timing) (c c' : Call)
        (d d' : Descriptor), Describes c d → Fails transport.deliver d →
        Describes c' d' → Fails transport'.deliver d' →
      (handle transport timing c).reply = (handle transport' timing' c').reply) ∧
    (∀ (transport : Transport) (timing : Timing) (c : Call) (d : Descriptor), Describes c d →
        ¬Fails transport.deliver d → (handle transport timing c).reply.status = 200) ∧
    (∀ (transport transport' : Transport) (timing timing' : Timing) (c : Call) (f : Line.Fault),
        Rejected c f →
      (handle transport timing c).reply = (handle transport' timing' c).reply) ∧
    ∀ (deliver deliver' : History → WireRequest → Delivery) (calls calls' : List (Timing × Call)),
      AlikeRuns deliver deliver' [] [] calls calls' →
        (session deliver [] calls).map Turn.reply = (session deliver' [] calls').map Turn.reply := by
  refine ⟨?_, ?_, ?_, ?_⟩
  · intro transport transport' timing timing' c c' d d' hd hfails hd' hfails'
    obtain ⟨turn, hturn, hreply⟩ := exists_settled_handle transport timing c
    obtain ⟨turn', hturn', hreply'⟩ := exists_settled_handle transport' timing' c'
    rw [hreply, hreply']
    exact (Alike.failing hd hfails hd' hfails').reply_eq hturn hturn'
  · intro transport timing c d hd hfails
    obtain ⟨turn, hturn, hreply⟩ := exists_settled_handle transport timing c
    rw [hreply]
    exact hturn.status_of_not_fails hd hfails
  · intro transport transport' timing timing' c f hf
    obtain ⟨turn, hturn, hreply⟩ := exists_settled_handle transport timing c
    obtain ⟨turn', hturn', hreply'⟩ := exists_settled_handle transport' timing' c
    rw [hreply, hreply']
    exact (Alike.rejected hf).reply_eq hturn hturn'
  · intro deliver deliver' calls calls' halike
    exact halike.replies_eq

/-- An address that is not absolute and an answer of the server that is no success: both calls have
one reply, and so have the sessions that go on with a line without delimiters. -/
theorem replies_reveal_no_cause_relative_and_upstream :
    let relative := callWith "HTTP GET | URL secret"
    let upstream := callWith "HTTP POST | URL mailto:x"
    let bare := callWith "secret"
    let answering : Transport := .always (.answered ⟨200, "done"⟩)
    let failing : Transport := .always (.answered ⟨503, "secret"⟩)
    (handle answering ⟨0, 1⟩ relative).reply = (handle failing ⟨2, 9⟩ upstream).reply ∧
      (handle answering ⟨0, 1⟩ bare).reply = (handle failing ⟨2, 9⟩ bare).reply ∧
      (session (fun _ => answering.deliver) [] [(⟨0, 1⟩, relative), (⟨1, 2⟩, bare)]).map Turn.reply =
        (session (fun _ => failing.deliver) [] [(⟨2, 9⟩, upstream), (⟨9, 9⟩, bare)]).map
          Turn.reply := by
  intro relative upstream bare answering failing
  have hrelative : Describes relative ⟨.get, "secret", .empty, .empty, .empty⟩ :=
    ⟨route_callWith _, _, payload_callWith (by decide +kernel), rfl⟩
  have hupstream : Describes upstream ⟨.post, "mailto:x", .empty, .empty, .empty⟩ :=
    ⟨route_callWith _, _, payload_callWith (by decide +kernel), rfl⟩
  have hbare : Rejected bare .missingDelimiter :=
    ⟨route_callWith _, _, payload_callWith (by decide +kernel), rfl⟩
  have hunbuilt : Fails answering.deliver ⟨.get, "secret", .empty, .empty, .empty⟩ :=
    .unbuilt _ rfl
  have hunsuccessful : Fails failing.deliver ⟨.post, "mailto:x", .empty, .empty, .empty⟩ :=
    .unsuccessful _ _ rfl rfl (by unfold Succeeds; decide)
  refine ⟨?_, ?_, ?_⟩
  · exact replies_reveal_no_cause.1 _ _ _ _ _ _ _ _ hrelative hunbuilt hupstream hunsuccessful
  · exact replies_reveal_no_cause.2.2.1 _ _ _ _ _ _ hbare
  · apply replies_reveal_no_cause.2.2.2
    exact .cons (.failing hrelative hunbuilt hupstream hunsuccessful) (.cons (.rejected hbare) .nil)

end RequestLine.Service
