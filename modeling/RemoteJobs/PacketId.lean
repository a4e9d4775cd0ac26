import RemoteJobs.Schema.Decoder

/-!
# Packet ids

A call and its reply carry the same packet id, a number from one to
`2 ^ 64 - 1`. A supply hands out the ids in order from the first one. The last
id has no successor but itself, so the ids of a supply differ as long as it
has not come to the last one.
-/

namespace RemoteJobs

structure PacketId where
  number : Nat
  positive : 0 < number
  small : number < 18446744073709551616
  deriving DecidableEq

namespace PacketId

def ofNat? (n : Nat) : Option PacketId :=
  if h : 0 < n ∧ n < 18446744073709551616 then some ⟨n, h.1, h.2⟩ else none

def first : PacketId := ⟨1, by omega, by omega⟩

def successor (i : PacketId) : PacketId :=
  if h : i.number + 1 < 18446744073709551616 then ⟨i.number + 1, by omega, h⟩ else i

def text (i : PacketId) : String := Decimal.natText i.number

def toJson (i : PacketId) : Json := .int i.number

def decode : Schema.Decoder PacketId
  | .int n =>
    match ofNat? n.toNat with
    | some i => .ok i
    | none => .error (.range n .positive64)
  | v => .error (.kind (.of v) .positive64)

theorem number_successor {i : PacketId} (h : i.number + 1 < 18446744073709551616) :
    i.successor.number = i.number + 1 := by
  simp [successor, h]

theorem decode_toJson (i : PacketId) : decode i.toJson = .ok i := by
  have h : 0 < i.number ∧ i.number < 18446744073709551616 := ⟨i.positive, i.small⟩
  simp [decode, toJson, ofNat?, h]

end PacketId

/-- The ids that are still to be handed out, from `upcoming` on. -/
structure IdSupply where
  upcoming : PacketId

namespace IdSupply

def fresh : IdSupply := ⟨.first⟩

def draw (s : IdSupply) : PacketId × IdSupply := (s.upcoming, ⟨s.upcoming.successor⟩)

/-- The first `n` ids and the supply after them. -/
def drawMany (s : IdSupply) : Nat → List PacketId × IdSupply
  | 0 => ([], s)
  | n + 1 =>
    let (i, s) := s.draw
    let (is, s) := s.drawMany n
    (i :: is, s)

end IdSupply

end RemoteJobs
