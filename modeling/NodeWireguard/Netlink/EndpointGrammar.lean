import Mathlib
import NodeWireguard.Netlink.AddressGrammar

/-!
# What `ParseEndpoint` accepts

The parser of `NlAttr.cpp` against the grammar of endpoints. It accepts the texts it can cut
with a loose port and a host whose C string is an address, and no others; the same cut of a
text of the grammar is unique, so parser and grammar agree on a text unless its cut deviates.
`ValidateEndpoint`, on which the request writer of the other backend relies, follows it.
-/

namespace NodeWireguard.EndpointGrammar

open ByteText DecimalText IntegerConversions AddressText AddressForms AddressGrammar

variable (inet : Inet)

/-- An IPv4 cut is at the last colon. -/
theorem loose_dotted_cut (s host portText : Bytes) (port : UInt16) (addr : Octets 4)
    (cut : LooseEndpoint inet s host portText (.in4 port addr)) :
    splitLast (byte ':') s = some (host, portText) := by
  cases cut with
  | dotted _ _ _ _ _ _ isPort =>
    exact (split_last_iff _ _ _ _).mpr
      ⟨rfl, loose_lacks portText _ isPort _ (by decide) (by decide) (by decide)⟩

/-- An IPv6 cut is at the first closing bracket. -/
theorem loose_bracketed_cut (s host portText : Bytes) (port : UInt16) (addr : Octets 16)
    (cut : LooseEndpoint inet s host portText (.in6 port addr)) :
    splitFirst (byte ']') s = some (byte '[' :: host, byte ':' :: portText) := by
  cases cut with
  | bracketed _ _ _ _ unclosed =>
    refine (split_first_iff _ _ _ _).mpr ⟨rfl, ?_⟩
    intro member
    rcases List.mem_cons.mp member with same | inHost
    · exact absurd same (by decide)
    · exact unclosed inHost

/-- A loose cut is accepted with its port and address. A text in brackets is cut at the first
closing one, any other at its last colon; behind the cut stands a loose number. -/
theorem parse_loose (s host portText : Bytes) (address : SockAddr)
    (cut : LooseEndpoint inet s host portText address) : parseEndpoint inet s = .ok address := by
  cases cut with
  | dotted _ _ port addr unbracketed isAddress isPort =>
    have split := loose_dotted_cut inet _ host portText port addr
      (.dotted host portText port addr unbracketed isAddress isPort)
    have first : (host ++ byte ':' :: portText).head? ≠ some (byte '[') := by
      cases host with
      | nil => exact fun same => absurd (Option.some.inj same) (by decide)
      | cons head rest => simpa using unbracketed
    have read := (parse_port_iff portText port).mpr isPort
    simp only [parseEndpoint, if_neg first, split, read, isAddress]
    rfl
  | bracketed _ _ port addr unclosed isAddress isPort =>
    have split := loose_bracketed_cut inet _ host portText port addr
      (.bracketed host portText port addr unclosed isAddress isPort)
    have read := (parse_port_iff portText port).mpr isPort
    simp only [parseEndpoint, List.head?_cons, ↓reduceIte, split, ne_eq, not_true_eq_false,
      List.drop_succ_cons, List.drop_zero, read, isAddress]
    rfl

/-- The cut behind an accepted text that starts with a bracket. The part before the first closing
bracket begins with the opening one, and behind it come a colon and the port. -/
theorem bracketed_of_parse (rest : Bytes) (address : SockAddr)
    (accepted : parseEndpoint inet (byte '[' :: rest) = .ok address) :
    ∃ host portText, LooseEndpoint inet (byte '[' :: rest) host portText address := by
  simp only [parseEndpoint, List.head?_cons, ↓reduceIte] at accepted
  split at accepted
  · cases accepted
  · rename_i before after cut
    obtain ⟨split, unclosed⟩ := (split_first_iff _ _ _ _).mp cut
    split at accepted
    · cases accepted
    · rename_i colon
      -- the part before the first closing bracket starts with the opening one
      cases before with
      | nil => exact absurd (List.cons.inj split).1 (by decide)
      | cons head host =>
        obtain ⟨rfl, tail⟩ := List.cons.inj split
        obtain ⟨portText, rfl⟩ : ∃ portText, after = byte ':' :: portText := by
          cases after with
          | nil => simp at colon
          | cons mark portText =>
            obtain rfl : mark = byte ':' := by simpa using colon
            exact ⟨portText, rfl⟩
        obtain ⟨port, read, known⟩ := (Fallible.bind_ok_iff _ _ _).mp accepted
        cases sixth : inet.inetPton6 host with
        | none => simp [sixth] at known
        | some addr =>
          obtain rfl : SockAddr.in6 port addr = address := by simpa [sixth] using known
          have inHost : byte ']' ∉ host := fun member => unclosed (List.mem_cons_of_mem _ member)
          rw [tail]
          exact ⟨host, portText, .bracketed host portText port addr inHost sixth
            ((parse_port_iff portText port).mp read)⟩

/-- The cut behind an accepted text that starts otherwise. -/
theorem dotted_of_parse (s : Bytes) (address : SockAddr) (first : s.head? ≠ some (byte '['))
    (accepted : parseEndpoint inet s = .ok address) :
    ∃ host portText, LooseEndpoint inet s host portText address := by
  simp only [parseEndpoint, if_neg first] at accepted
  split at accepted
  · cases accepted
  · rename_i host portText cut
    obtain ⟨rfl, -⟩ := (split_last_iff _ _ _ _).mp cut
    obtain ⟨port, read, known⟩ := (Fallible.bind_ok_iff _ _ _).mp accepted
    cases fourth : inet.inetPton4 host with
    | none => simp [fourth] at known
    | some addr =>
      obtain rfl : SockAddr.in4 port addr = address := by simpa [fourth] using known
      have unbracketed : host.head? ≠ some (byte '[') := by
        cases host with
        | nil => simp
        | cons head rest => simpa using first
      exact ⟨host, portText, .dotted host portText port addr unbracketed fourth
        ((parse_port_iff portText port).mp read)⟩

/-- The parser accepts exactly the texts with a loose cut. -/
theorem parse_endpoint_iff (s : Bytes) (address : SockAddr) :
    parseEndpoint inet s = .ok address ↔
      ∃ host portText, LooseEndpoint inet s host portText address := by
  constructor
  · intro accepted
    by_cases first : s.head? = some (byte '[')
    · cases s with
      | nil => simp at first
      | cons head rest =>
        obtain rfl : head = byte '[' := by simpa using first
        exact bracketed_of_parse inet rest address accepted
    · exact dotted_of_parse inet s address first accepted
  · rintro ⟨host, portText, cut⟩
    exact parse_loose inet s host portText address cut

/-- `ValidateEndpoint` accepts what `ParseEndpoint` accepts. -/
theorem validate_endpoint_iff (s : Bytes) :
    validateEndpoint inet s = .ok () ↔ ∃ address, parseEndpoint inet s = .ok address := by
  rw [validateEndpoint, Fallible.bind_ok_iff]
  exact ⟨fun ⟨address, accepted, _⟩ => ⟨address, accepted⟩, fun ⟨address, accepted⟩ =>
    ⟨address, accepted, rfl⟩⟩

/-- Parser and grammar agree on this text: on whether it is an endpoint, and on which. -/
structure AcceptsGrammar (s : Bytes) : Prop where
  parsed : ∀ address, parseEndpoint inet s = .ok address ↔ EndpointText inet s address
  validated : validateEndpoint inet s = .ok () ↔ ∃ address, EndpointText inet s address

/-- The text has a loose cut whose host goes on after a zero octet or whose port is more than
digits. -/
def Overlooked (s : Bytes) : Prop :=
  ∃ host portText address, LooseEndpoint inet s host portText address ∧ Deviates host portText

variable {inet}

/-- A text of the grammar is cut into its host and its digits. -/
theorem endpoint_text_loose (spelled : Inet.Spelled inet) (s : Bytes) (address : SockAddr)
    (text : EndpointText inet s address) :
    ∃ host digits, LooseEndpoint inet s host digits address ∧ ¬ Deviates host digits := by
  cases text with
  | dotted host digits port addr isAddress isPort =>
    have bracketFree := pton4_lacks spelled host addr isAddress.2 (byte '[') (by decide)
    have unbracketed : host.head? ≠ some (byte '[') :=
      fun first => bracketFree (List.mem_of_mem_head? first)
    exact ⟨host, digits, .dotted host digits port addr unbracketed
      (whole_address4 host addr isAddress) (strict_loose digits _ isPort),
      (not_deviates host digits).mpr ⟨isAddress.1, isPort.digit⟩⟩
  | bracketed host digits port addr isAddress isPort =>
    have unclosed := pton6_lacks spelled host addr isAddress.2 (byte ']') (by decide)
    exact ⟨host, digits, .bracketed host digits port addr unclosed
      (whole_address6 host addr isAddress) (strict_loose digits _ isPort),
      (not_deviates host digits).mpr ⟨isAddress.1, isPort.digit⟩⟩

/-- A cut that does not deviate is a text of the grammar. -/
theorem loose_endpoint_text (s host portText : Bytes) (address : SockAddr)
    (cut : LooseEndpoint inet s host portText address) (plain : ¬ Deviates host portText) :
    EndpointText inet s address := by
  obtain ⟨zeroFree, digits⟩ := (not_deviates host portText).mp plain
  cases cut with
  | dotted host portText port addr _ isAddress isPort =>
    exact .dotted host portText port addr (address4_whole host addr zeroFree isAddress)
      (loose_strict portText _ isPort digits)
  | bracketed host portText port addr _ isAddress isPort =>
    exact .bracketed host portText port addr (address6_whole host addr zeroFree isAddress)
      (loose_strict portText _ isPort digits)

/-- A text has one cut for an address. -/
theorem loose_endpoint_unique (s host host' portText portText' : Bytes) (address : SockAddr)
    (cut : LooseEndpoint inet s host portText address)
    (cut' : LooseEndpoint inet s host' portText' address) : host = host' ∧ portText = portText' := by
  cases address with
  | in4 port addr =>
    have split := loose_dotted_cut inet s host portText port addr cut
    rw [loose_dotted_cut inet s host' portText' port addr cut'] at split
    simpa [eq_comm] using split
  | in6 port addr =>
    have split := loose_bracketed_cut inet s host portText port addr cut
    rw [loose_bracketed_cut inet s host' portText' port addr cut'] at split
    simpa [eq_comm] using split

/-- An overlooked text is accepted although it is not in the grammar. -/
theorem overlooked_disagrees (spelled : Inet.Spelled inet) (s : Bytes)
    (overlooked : Overlooked inet s) : ¬ AcceptsGrammar inet s := by
  obtain ⟨host, portText, address, cut, deviates⟩ := overlooked
  intro agrees
  have accepted := parse_loose inet s host portText address cut
  obtain ⟨host', digits, strictCut, plain⟩ :=
    endpoint_text_loose spelled s address ((agrees.parsed address).mp accepted)
  obtain ⟨rfl, rfl⟩ := loose_endpoint_unique s _ _ _ _ address cut strictCut
  exact plain deviates

/-- Parser and grammar agree on exactly the texts that are not overlooked. An endpoint is
overlooked where it parses, but has its address or its port spelled in a way that the grammar
does not have.

Proof: the parser accepts exactly the loose texts, by inverting its cuts and conversions. A loose
text that does not deviate from the grammar is one of the grammar's, and every text of the
grammar is loose, with the same address; a deviating one is accepted and is no text of the
grammar. -/
theorem endpoint_grammar_iff (spelled : Inet.Spelled inet) (s : Bytes) :
    AcceptsGrammar inet s ↔ ¬ Overlooked inet s := by
  constructor
  · exact fun agrees overlooked => overlooked_disagrees spelled s overlooked agrees
  · intro notOverlooked
    have parsed (address : SockAddr) :
        parseEndpoint inet s = .ok address ↔ EndpointText inet s address := by
      rw [parse_endpoint_iff]
      constructor
      · rintro ⟨host, portText, cut⟩
        exact loose_endpoint_text s host portText address cut
          (fun deviates => notOverlooked ⟨host, portText, address, cut, deviates⟩)
      · intro text
        obtain ⟨host, digits, cut, -⟩ := endpoint_text_loose spelled s address text
        exact ⟨host, digits, cut⟩
    refine ⟨parsed, ?_⟩
    rw [validate_endpoint_iff]
    exact exists_congr parsed

/-- The address of the texts below. -/
def sampleAddress : Octets 4 := .cons 192 (.cons 0 (.cons 2 (.cons 1 .nil)))

/-- A plain endpoint is not overlooked. -/
theorem plain_endpoint_agrees :
    AcceptsGrammar plainInet (ascii "192.0.2.1:51820") ∧
      parseEndpoint plainInet (ascii "192.0.2.1:51820") = .ok (.in4 51820 sampleAddress) := by
  have notOverlooked : ¬ Overlooked plainInet (ascii "192.0.2.1:51820") := by
    rintro ⟨host, portText, address, cut, deviates⟩
    cases address with
    | in4 port addr =>
      have known : splitLast (byte ':') (ascii "192.0.2.1:51820") =
          some (ascii "192.0.2.1", ascii "51820") := by decide
      rw [loose_dotted_cut _ _ host portText port addr cut, Option.some.injEq,
        Prod.mk.injEq] at known
      obtain ⟨rfl, rfl⟩ := known
      exact (not_deviates _ _).mpr ⟨by decide, List.all_eq_true.mp (by decide)⟩ deviates
    | in6 port addr =>
      have known : splitFirst (byte ']') (ascii "192.0.2.1:51820") = none := by decide
      rw [loose_bracketed_cut _ _ host portText port addr cut] at known
      cases known
  exact ⟨(endpoint_grammar_iff plain_inet_spelled _).mpr notOverlooked, by decide⟩

/-- A blank in front of the port, or a host that goes on after a zero octet, is overlooked. -/
theorem spaced_port_accepted :
    ¬ AcceptsGrammar plainInet (ascii "192.0.2.1: 51820") ∧
      ¬ AcceptsGrammar plainInet (ascii "192.0.2.1" ++ 0 :: ascii "x:51820") := by
  have spaced : LooseEndpoint plainInet (ascii "192.0.2.1" ++ byte ':' :: ascii " 51820")
      (ascii "192.0.2.1") (ascii " 51820") (.in4 51820 sampleAddress) :=
    .dotted _ _ _ _ (by decide) (by decide) ((loose_number_iff _ _ (by decide)).mpr (by decide))
  have continued : LooseEndpoint plainInet ((ascii "192.0.2.1" ++ 0 :: ascii "x") ++
      byte ':' :: ascii "51820") (ascii "192.0.2.1" ++ 0 :: ascii "x") (ascii "51820")
      (.in4 51820 sampleAddress) :=
    .dotted _ _ _ _ (by decide) (by decide) ((loose_number_iff _ _ (by decide)).mpr (by decide))
  constructor
  · exact overlooked_disagrees plain_inet_spelled _
      ⟨_, _, _, spaced, .inr ⟨byte ' ', by decide, by decide⟩⟩
  · exact overlooked_disagrees plain_inet_spelled _ ⟨_, _, _, continued, .inl (by decide)⟩

end NodeWireguard.EndpointGrammar
