import StandIn.Proofs.Http.Fields
import StandIn.Proofs.Net.AddressText
import StandIn.Proofs.Relay.Deeds

/-!
# Through whom a request came

The field `X-Forwarded-For` lists the hosts through which a request came, and every relay puts the
one from which it got the request at the end.  The list may be spread over several values.  Only the
first of them is read, but all of them are replaced.

* `clients` — the list, over all values.
* `clients_appendClient` — the list with one more client, as the relay writes it.
* `client_named_last` — the client's own address is always there, and nothing else is changed.
* `clients_of_mem_sent` — which hosts the target gets to see, and when that is all of them.
* `second_client_lost` — a host that the target does not get to see.
-/

namespace StandIn.Relay

open Http (FieldName FieldValue Headers Transport Request Incoming)

/-- The hosts through which a request came, in order. -/
def clients (h : Headers) : List Octets :=
  (h.values forwardedFor).flatMap fun v => Http.listItems v.octets

/-! ## Writing the list -/

/-- An address may stand in a list: it holds neither what separates items nor what surrounds
them. -/
lemma not_separator_of_mem_address (a : Net.Address) :
    ∀ b ∈ Utf8.encode a.render, b ≠ 0x2C ∧ Http.isBlank b = false := fun b hb =>
  (a.isAddressText_render.of_mem_encode b hb).2

lemma all_isVisible_address (a : Net.Address) :
    (Utf8.encode a.render).all FieldValue.isVisible = true :=
  List.all_eq_true.2 fun b hb => (a.isAddressText_render.of_mem_encode b hb).1

lemma all_isVisible_forwardedValue (h : Headers) (a : Net.Address) :
    (forwardedValue h a).all FieldValue.isVisible = true := by
  have haddress := all_isVisible_address a
  rw [forwardedValue]
  split
  · rename_i earlier hearlier
    obtain ⟨v, -, hv⟩ := Option.bind_eq_some_iff.1 hearlier
    obtain ⟨hvisible, rfl⟩ := FieldValue.visible?_eq_some_iff.1 hv
    have hseparator : (Utf8.encode ", ").all FieldValue.isVisible = true := by decide
    rw [List.all_append, List.all_append, hvisible, hseparator, haddress]
    rfl
  · exact haddress

/-- The field can always be written, and it has a single value then. -/
lemma values_appendClient (h : Headers) (a : Net.Address) :
    ∃ v, (appendClient h a).values forwardedFor = [v] ∧ v.octets = forwardedValue h a := by
  obtain ⟨v, hv, hoctets⟩ :=
    FieldValue.ofOctets?_of_all_isVisible (all_isVisible_forwardedValue h a)
  refine ⟨v, ?_, hoctets⟩
  rw [appendClient, hv]
  simp

/-- **What the relay writes.**  The hosts of the first value, if it is plain text, and the one more
at the end.  The other values leave no trace. -/
theorem clients_appendClient (h : Headers) (a : Net.Address) :
    clients (appendClient h a)
      = (match (h.get? forwardedFor).bind FieldValue.visible? with
        | some earlier => Http.listItems earlier
        | none => []) ++ [Utf8.encode a.render] := by
  have hitem := not_separator_of_mem_address a
  have hseparator : Utf8.encode ", " = [0x2C, 0x20] := by decide
  obtain ⟨v, hvalues, hoctets⟩ := values_appendClient h a
  rw [clients, hvalues, List.flatMap_singleton, hoctets, forwardedValue]
  cases (h.get? forwardedFor).bind FieldValue.visible? with
  | none => exact Http.listItems_of_item hitem
  | some earlier =>
      dsimp only
      rw [hseparator, List.append_assoc]
      exact Http.listItems_append_item earlier hitem

/-- The client stands at the end of the one value that is written. -/
lemma getLast?_listItems_appendClient (h : Headers) (a : Net.Address) :
    ∃ v, (appendClient h a).values forwardedFor = [v] ∧
      (Http.listItems v.octets).getLast? = some (Utf8.encode a.render) := by
  obtain ⟨v, hvalues, -⟩ := values_appendClient h a
  have hclients := clients_appendClient h a
  rw [clients, hvalues, List.flatMap_singleton] at hclients
  exact ⟨v, hvalues, by rw [hclients, List.getLast?_concat]⟩

/-- No other field is touched. -/
lemma values_appendClient_of_ne (h : Headers) (a : Net.Address) {n : FieldName}
    (hn : n ≠ forwardedFor) : (appendClient h a).values n = h.values n := by
  rw [appendClient]
  split
  · rw [Headers.values_set, if_neg hn]
  · rfl

/-! ## What the target sees -/

/-- Whatever else is changed, the fields that go on are those for more than one hop, and the one
that lists the clients. -/
lemma headers_of_prepare {t : Target} {remote : Net.SocketAddress} {r q : Request}
    (h : t.prepare remote r = .ok q) :
    q.head.headers = appendClient r.head.headers.endToEnd remote.address := by
  obtain ⟨uri, -, rfl⟩ := map_eq_ok_iff.1 h
  rfl

lemma headers_of_outgoing? {t : Target} {remote : Net.SocketAddress} {r q : Request}
    (h : t.outgoing? remote r = some q) :
    q.head.headers = appendClient r.head.headers.endToEnd remote.address := by
  rw [Target.outgoing?] at h
  split at h
  · rename_i q' hprepare
    split_ifs at h
    obtain rfl : q' = q := Option.some.inj h
    exact headers_of_prepare hprepare
  · cases h

lemma headers_of_mem_sent {t : Target} {transport : Transport} {earlier : List Request}
    {remote : Net.SocketAddress} {r : Incoming} {q : Request}
    (hq : q ∈ sent (handle t transport earlier remote r).deeds) :
    q.head.headers = appendClient r.head.headers.endToEnd remote.address := by
  rw [sent_handle, Option.mem_toList, Target.relayed?] at hq
  split at hq
  · split_ifs at hq
    exact headers_of_outgoing? (r := ⟨r.head, _⟩) hq
  · cases hq

/-- **A client can neither suppress nor hide its own address.**  Whatever fields come in, also if
the field is named as one of one hop or holds what is no plain text, and whatever the address is: if
the request has a place on the target, what is handed over has a single value of the field, and the
address stands at its end.  All other fields are those for more than one hop, as they were. -/
theorem client_named_last (t : Target) (transport : Transport) (earlier : List Request)
    (remote : Net.SocketAddress) (r : Request) :
    let kept := r.head.headers.endToEnd
    let passed := appendClient kept remote.address
    ((t.prepare remote r).map fun q => q.head.headers)
      = ((t.locate r.head.uri).map fun _ => passed) ∧
    (∀ q ∈ sent (t.forward transport earlier remote r).1, q.head.headers = passed) ∧
    (∃ v, passed.values forwardedFor = [v] ∧
      (Http.listItems v.octets).getLast? = some (Utf8.encode remote.address.render)) ∧
    ∀ n, n ≠ forwardedFor → passed.values n = kept.values n := by
  intro kept passed
  refine ⟨?_, fun q hq => ?_, ?_, ?_⟩
  · rw [Target.prepare]
    cases t.locate r.head.uri <;> rfl
  · rw [sent_forward, Option.mem_toList] at hq
    exact headers_of_outgoing? hq
  · exact getLast?_listItems_appendClient kept remote.address
  · intro n hn
    exact values_appendClient_of_ne kept remote.address hn

/-- The field is passed on like any other, unless the sender names it as one of one hop. -/
lemma values_forwardedFor_endToEnd {h : Headers} (hnamed : forwardedFor ∉ h.named) :
    h.endToEnd.values forwardedFor = h.values forwardedFor := by
  have hhop : forwardedFor ∉ Http.hopByHop := by decide
  rw [Headers.values_endToEnd, if_neg]
  simp only [List.mem_append, hnamed, hhop, or_self, not_false_eq_true]

/-- **Which hosts the target gets to see.**  All values are plain text, and the sender does not name
the field as one of one hop.  The target sees the hosts of the first value, and the client behind
them.  No host is lost exactly if there is at most one value. -/
theorem clients_of_mem_sent {t : Target} {transport : Transport} {earlier : List Request}
    {remote : Net.SocketAddress} {r : Incoming} {q : Request}
    (hq : q ∈ sent (handle t transport earlier remote r).deeds)
    (hvisible : ∀ v ∈ r.head.headers.values forwardedFor, v.octets.all FieldValue.isVisible = true)
    (hnamed : forwardedFor ∉ r.head.headers.named) :
    clients q.head.headers
      = ((r.head.headers.values forwardedFor).take 1).flatMap (fun v => Http.listItems v.octets)
          ++ [Utf8.encode remote.address.render] ∧
    (clients q.head.headers
        = clients r.head.headers ++ [Utf8.encode remote.address.render]
      ↔ (r.head.headers.values forwardedFor).length ≤ 1) := by
  have hvalues := values_forwardedFor_endToEnd hnamed
  rw [headers_of_mem_sent hq, clients_appendClient, Headers.get?_eq_head?, hvalues, clients]
  cases hall : r.head.headers.values forwardedFor with
  | nil => simp
  | cons v vs =>
      have hv : v.visible? = some v.octets :=
        FieldValue.visible?_eq_some_iff.2 ⟨hvisible v (by rw [hall]; exact List.mem_cons_self), rfl⟩
      rw [List.head?_cons, Option.bind_some, hv]
      refine ⟨by simp, ?_⟩
      -- every further value has at least one item, so that leaving it out shortens the list
      cases vs with
      | nil => simp
      | cons w ws =>
          have hitems := List.length_pos_iff.2 (Http.listItems_ne_nil w.octets)
          refine iff_of_false (fun heq => ?_) (by simp)
          have hlength := congrArg List.length heq
          simp only [List.flatMap_cons, List.length_append, List.length_singleton] at hlength
          omega

/-- A host that came as the only value stands in front of the client. -/
theorem clients_of_single_value :
    let t : Target := ⟨Target.defaultName, ⟨some "http", some "h", "/", none⟩⟩
    let r : Incoming := ⟨⟨.get, ⟨none, none, "/", none⟩, .http11,
      ⟨[(forwardedFor, ⟨Utf8.encode "10.0.0.1", by decide⟩)]⟩⟩, [], none⟩
    ∃ q ∈ sent (handle t Transport.unreachable [] (.v4 ⟨10, 0, 0, 7⟩ 5000) r).deeds,
      clients q.head.headers = [Utf8.encode "10.0.0.1", Utf8.encode "10.0.0.7"] := by
  intro t r
  have hsent : ⟨⟨.get, ⟨some "http", some "h", "/", none⟩, .http11,
      ⟨[(forwardedFor, ⟨Utf8.encode "10.0.0.1, 10.0.0.7", by decide⟩)]⟩⟩, []⟩
      ∈ sent (handle t Transport.unreachable [] (.v4 ⟨10, 0, 0, 7⟩ 5000) r).deeds := by
    decide +kernel
  exact ⟨_, hsent, (clients_of_mem_sent hsent (by decide) (by decide)).1⟩

/-- **A host that the target does not get to see.**  Two hosts came as two values, and all that is
asked of them holds; but of the second there is no trace. -/
theorem second_client_lost :
    let h : Headers := ⟨[(forwardedFor, ⟨Utf8.encode "10.0.0.1", by decide⟩),
      (forwardedFor, ⟨Utf8.encode "10.0.0.2", by decide⟩)]⟩
    (∀ v ∈ h.values forwardedFor, v.octets.all FieldValue.isVisible = true) ∧
    forwardedFor ∉ h.named ∧
    clients h = [Utf8.encode "10.0.0.1", Utf8.encode "10.0.0.2"] ∧
    (sent (handle ⟨Target.defaultName, ⟨some "http", some "h", "/", none⟩⟩ Transport.unreachable []
      (.v4 ⟨10, 0, 0, 7⟩ 5000)
      ⟨⟨.get, ⟨none, none, "/", none⟩, .http11, h⟩, [], none⟩).deeds).map
        (fun q => clients q.head.headers)
      = [[Utf8.encode "10.0.0.1", Utf8.encode "10.0.0.7"]] := by
  decide +kernel

end StandIn.Relay
