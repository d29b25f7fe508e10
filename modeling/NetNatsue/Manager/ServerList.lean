import NetNatsue.Manager.Pumping
import NetNatsue.Protocol.Decoding

/-! The server list that a login response may carry: what is read of it, and what is kept. -/
namespace NetNatsue
open Codec

namespace CBabelServerInfo

/-- A server whose strings a zero byte can end. -/
structure Writable (server : CBabelServerInfo) : Prop where
  host : (0 : UInt8) ∉ server.myHost
  friendlyName : (0 : UInt8) ∉ server.myFriendlyName

/-- An entry of a list: the numbers, and two strings that a zero byte ends. -/
def encode (server : CBabelServerInfo) : Bytes :=
  putInt server.myPort ++ (putInt server.myID ++
    ((server.myHost ++ [0]) ++ (server.myFriendlyName ++ [0])))

end CBabelServerInfo
open CBabelServerInfo

/-- Characters up to a zero byte, which has to be there. -/
def readText : Reader UInt8 Bytes := fun stream =>
  if (0 : UInt8) ∈ stream then
    some (stream.takeWhile (· ≠ 0), (stream.dropWhile (· ≠ 0)).drop 1) else none

def readServer : Reader UInt8 CBabelServerInfo := do
  let port ← readInt
  let id ← readInt
  let host ← readText
  let friendlyName ← readText
  return { myHost := host, myFriendlyName := friendlyName, myPort := port, myID := id }

theorem readInt_some {stream : Bytes} (h : 4 ≤ stream.length) :
    readInt stream = some (getInt stream 0, stream.drop 4) := by
  have hfront := getInt_append (stream.take 4) (stream.drop 4) 0 (by rw [List.length_take]; omega)
  rw [List.take_append_drop] at hfront
  change (block 4 stream).bind (fun r => some (getInt r.1 0, r.2)) = _
  rw [block, if_pos h, hfront]
  rfl

theorem readInt_none {stream : Bytes} (h : stream.length < 4) : readInt stream = none := by
  change (block 4 stream).bind (fun r => some (getInt r.1 0, r.2)) = _
  rw [block, if_neg (by omega)]
  rfl

/-- The parts of an entry one after another. -/
theorem readServer_eq (stream : Bytes) : readServer stream =
    (readInt stream).bind fun port => (readInt port.2).bind fun id =>
    (readText id.2).bind fun host =>
      (readText host.2).bind fun name =>
        some ({ myHost := host.1, myFriendlyName := name.1, myPort := port.1, myID := id.1 },
          name.2) := rfl

theorem readInt_sound : Sound readInt putInt (fun _ => True) := by
  intro stream value rest hread
  by_cases hshort : stream.length < 4
  · rw [readInt_none hshort] at hread
    cases hread
  · match stream, hshort with
    | a :: b :: c :: d :: back, _ =>
      rw [readInt_some (by simp)] at hread
      obtain ⟨rfl, rfl⟩ := Prod.mk.inj (Option.some.inj hread)
      exact ⟨trivial, by rw [putInt_getInt]; rfl⟩
    | [], hshort => simp at hshort
    | [_], hshort => simp at hshort
    | [_, _], hshort => simp at hshort
    | [_, _, _], hshort => simp at hshort

theorem readText_sound : Sound readText (fun text => text ++ [0]) (fun text => 0 ∉ text) := by
  intro stream text rest hread
  by_cases hzero : (0 : UInt8) ∈ stream
  · obtain ⟨front, back, rfl, hfront⟩ := List.eq_append_cons_of_mem hzero
    obtain ⟨htake, hdrop⟩ := takeWhile_split 0 front back hfront
    rw [readText, if_pos hzero, htake, hdrop] at hread
    obtain ⟨rfl, rfl⟩ := Prod.mk.inj (Option.some.inj hread)
    exact ⟨hfront, List.append_cons front 0 back⟩
  · rw [readText, if_neg hzero] at hread
    cases hread

theorem reads_text (text : Bytes) (h : (0 : UInt8) ∉ text) : Reads readText (text ++ [0]) text := by
  intro rest
  rw [← List.append_cons]
  obtain ⟨htake, hdrop⟩ := takeWhile_split 0 text rest h
  rw [readText, if_pos (List.mem_append_right _ List.mem_cons_self), htake, hdrop]
  rfl

theorem readServer_sound : Sound readServer encode Writable := by
  intro stream server rest hread
  obtain ⟨port, stream1, hport, hread⟩ := bind_some hread
  obtain ⟨id, stream2, hid, hread⟩ := bind_some hread
  obtain ⟨host, stream3, hhost, hread⟩ := bind_some hread
  obtain ⟨name, stream4, hname, hread⟩ := bind_some hread
  obtain ⟨rfl, rfl⟩ := Prod.mk.inj (Option.some.inj hread)
  obtain ⟨_, rfl⟩ := readInt_sound _ _ _ hport
  obtain ⟨_, rfl⟩ := readInt_sound _ _ _ hid
  obtain ⟨hhostText, rfl⟩ := readText_sound _ _ _ hhost
  obtain ⟨hnameText, rfl⟩ := readText_sound _ _ _ hname
  exact ⟨⟨hhostText, hnameText⟩, by simp only [encode, List.append_assoc]⟩

theorem reads_server (server : CBabelServerInfo) (h : server.Writable) :
    Reads readServer server.encode server :=
  (reads_int _).bind ((reads_int _).bind ((reads_text _ h.host).bind
    ((reads_text _ h.friendlyName).done _)))

/-- What of a packet lies behind an offset. -/
def window (raw : Bytes) (rawSize offset : ℕ) : Bytes := (raw.take rawSize).drop offset

section
variable {raw : Bytes} {rawSize : ℕ}

theorem window_length (hraw : rawSize ≤ raw.length) (offset : ℕ) :
    (window raw rawSize offset).length = rawSize - offset := by
  rw [window, List.length_drop, List.length_take, min_eq_left hraw]

theorem window_drop (offset n : ℕ) :
    (window raw rawSize offset).drop n = window raw rawSize (offset + n) := by
  rw [window, List.drop_drop]
  rfl

theorem window_cons (hraw : rawSize ≤ raw.length) {offset : ℕ} (h : offset < rawSize) :
    window raw rawSize offset = byteAt raw offset :: window raw rawSize (offset+1) := by
  have hlength : offset < (raw.take rawSize).length := by
    rw [List.length_take, min_eq_left hraw]
    exact h
  rw [window, List.drop_eq_getElem_cons hlength, List.getElem_take]
  rw [byteAt, List.getD_eq_getElem _ _ (by omega)]
  rfl

theorem getInt_window (hraw : rawSize ≤ raw.length) {offset : ℕ} (h : offset + 4 ≤ rawSize) :
    getInt (window raw rawSize offset) 0 = getInt raw offset := by
  have hfront := getInt_append (raw.take rawSize) (raw.drop rawSize) offset
    (by rw [List.length_take, min_eq_left hraw]; exact h)
  rw [List.take_append_drop] at hfront
  rw [window, getInt_drop, hfront]
  rfl

/-- A string is read to its zero byte, or to the end of the packet. -/
theorem readZeroTerminated_window (hraw : rawSize ≤ raw.length) (n offset : ℕ)
    (h : rawSize ≤ offset + n) :
    readZeroTerminated raw rawSize n offset =
      ((window raw rawSize offset).takeWhile (· ≠ 0),
        offset + ((window raw rawSize offset).takeWhile (· ≠ 0)).length) := by
  have hbehind : ∀ offset, rawSize ≤ offset → window raw rawSize offset = [] := by
    intro offset hend
    apply List.eq_nil_of_length_eq_zero
    rw [window_length hraw]
    omega
  induction n generalizing offset with
  | zero =>
    rw [hbehind offset h]
    rfl
  | succ n ih =>
    by_cases hinside : offset < rawSize
    · rw [window_cons hraw hinside]
      by_cases hzero : byteAt raw offset = 0
      · simp [readZeroTerminated, hzero]
      · simp only [readZeroTerminated, hinside, hzero, ne_eq, not_false_eq_true, and_self, if_true,
          ih (offset+1) (by omega)]
        rw [List.takeWhile_cons_of_pos (by simpa using hzero), List.length_cons, Nat.add_assoc,
          Nat.add_comm 1]
    · rw [hbehind offset (by omega)]
      simp [readZeroTerminated, hinside]

/-- Behind a string that has its zero byte. -/
theorem readText_window {offset : ℕ} (h : (0 : UInt8) ∈ window raw rawSize offset) :
    readText (window raw rawSize offset) =
      some ((window raw rawSize offset).takeWhile (· ≠ 0),
        window raw rawSize (offset + ((window raw rawSize offset).takeWhile (· ≠ 0)).length + 1)) ∧
    offset + ((window raw rawSize offset).takeWhile (· ≠ 0)).length + 1 ≤
      offset + (window raw rawSize offset).length := by
  obtain ⟨front, back, hsplit, hfront⟩ := List.eq_append_cons_of_mem h
  obtain ⟨htake, hdrop⟩ := takeWhile_split 0 front back hfront
  have hrest : window raw rawSize (offset + front.length + 1) = back := by
    rw [Nat.add_assoc, ← window_drop, hsplit, ← List.drop_drop, List.drop_left]
    rfl
  rw [readText, if_pos h]
  rw [hsplit, htake, hdrop, hrest, List.length_append, List.length_cons]
  exact ⟨rfl, by omega⟩

/-- Without a zero byte a string goes on to the end. -/
theorem takeWhile_window (hraw : rawSize ≤ raw.length) {offset : ℕ}
    (h : (0 : UInt8) ∉ window raw rawSize offset) :
    ((window raw rawSize offset).takeWhile (· ≠ 0)).length = rawSize - offset := by
  have hall : (window raw rawSize offset).takeWhile (· ≠ 0) = window raw rawSize offset := by
    refine List.takeWhile_eq_self_iff.mpr fun c hc => decide_eq_true ?_
    intro heq
    rw [heq] at hc
    exact h hc
  rw [hall, window_length hraw]

theorem readServer_short (hraw : rawSize ≤ raw.length) {offset : ℕ} (h : offset + 8 > rawSize) :
    readServer (window raw rawSize offset) = none := by
  rw [readServer_eq]
  by_cases hport : offset + 4 > rawSize
  · rw [readInt_none (by rw [window_length hraw]; omega)]
    rfl
  · rw [readInt_some (by rw [window_length hraw]; omega), Option.bind_some, window_drop,
      readInt_none (by rw [window_length hraw]; omega)]
    rfl

/-- The numbers are there; the strings decide. -/
theorem readServer_long (hraw : rawSize ≤ raw.length) {offset : ℕ} (h : ¬ offset + 8 > rawSize) :
    readServer (window raw rawSize offset) =
      (readText (window raw rawSize (offset + 8))).bind fun host =>
      (readText host.2).bind fun name =>
        some ({ myHost := host.1, myFriendlyName := name.1, myPort := getInt raw offset
                myID := getInt raw (offset + 4) }, name.2) := by
  rw [readServer_eq, readInt_some (by rw [window_length hraw]; omega),
    Option.bind_some, window_drop,
    readInt_some (by rw [window_length hraw]; omega), Option.bind_some, window_drop,
    getInt_window hraw (by omega), getInt_window hraw (by omega)]

/-- The loop reads as many entries as there are. A string cut off at the end of the packet lets the
offset run past the end, which the check at the end of the round notices. -/
theorem parseServers_eq (hraw : rawSize ≤ raw.length) (count offset : ℕ) (h : offset ≤ rawSize) :
    parseServers raw rawSize count offset = upTo readServer count (window raw rawSize offset) := by
  induction count generalizing offset with
  | zero => rfl
  | succ count ih =>
    rw [upTo]
    by_cases hshort : offset + 8 > rawSize
    · rw [readServer_short hraw hshort]
      simp only [parseServers, hshort, if_true]
    rw [readServer_long hraw hshort]
    have haddress := readZeroTerminated_window hraw rawSize (offset + 8) (by omega)
    simp only [parseServers, hshort, if_false, haddress]
    have hlength := window_length hraw (offset + 8)
    by_cases hhost : (0 : UInt8) ∈ window raw rawSize (offset + 8)
    · obtain ⟨hread, hinside⟩ := readText_window hhost
      rw [hread, Option.bind_some]
      generalize hbehind : offset + 8 +
        ((window raw rawSize (offset + 8)).takeWhile (· ≠ 0)).length + 1 = behind
        at hinside ⊢
      have hname := readZeroTerminated_window hraw rawSize behind (by omega)
      have hlength' := window_length hraw behind
      simp only [hname]
      by_cases hfriendly : (0 : UInt8) ∈ window raw rawSize behind
      · obtain ⟨hread', hinside'⟩ := readText_window hfriendly
        rw [hread', Option.bind_some, if_neg (by omega), ih _ (by omega)]
      · have hend := takeWhile_window hraw hfriendly
        rw [if_pos (by omega), readText, if_neg hfriendly]
        rfl
    · have hend := takeWhile_window hraw hhost
      have hname := readZeroTerminated_window hraw rawSize (offset + 8 +
        ((window raw rawSize (offset + 8)).takeWhile (· ≠ 0)).length + 1) (by omega)
      simp only [hname]
      rw [if_pos (by omega), readText, if_neg hhost]
      rfl

end

namespace DSNetManager

theorem socketWrite_servers (m : DSNetManager) (packet : Bytes) :
    (m.socketWrite packet).2.myServers = m.myServers ∧
      (m.socketWrite packet).2.myServerRotation = m.myServerRotation := by
  simp only [socketWrite]
  split_ifs <;> exact ⟨rfl, rfl⟩

theorem acceptLogin_servers (m : DSNetManager) (serverUIN userUIN : BabelUIN)
    (servers : List CBabelServerInfo) :
    (m.acceptLogin serverUIN userUIN servers).myServers = (if servers = [] then
      m.myServers else servers) ∧
      (m.acceptLogin serverUIN userUIN servers).myServerRotation =
        if servers = [] then m.myServerRotation else 0 := by
  constructor
  · exact sendWWRRegistrations_kept myServers (fun _ _ => rfl)
      (fun n packet => (n.socketWrite_servers packet).1) _ _
  · exact sendWWRRegistrations_kept myServerRotation (fun _ _ => rfl)
      (fun n packet => (n.socketWrite_servers packet).2) _ _

/-- How many entries the packet in front announces. -/
def serverCount (m : DSNetManager) : ℕ := (getInt m.mySocket.myInput 56).toInt.toNat

/-- The bytes of the packet in front that hold the entries. -/
def serverBytes (m : DSNetManager) (totalSize : Int32) : Bytes :=
  (m.mySocket.myInput.take totalSize.toInt.toNat).drop 60

/-- The packet in front is a login response that is accepted and carries a server list. -/
structure BringsServers (m : DSNetManager) (totalSize : Int32) : Prop where
  phase : m.myConnectPhase = .awaitHandshake
  frame : cut m.myTransactions m.mySocket.myInput = .frame totalSize
  unclaimed : answeredBy m.myTransactions (PacketHeader.read m.mySocket.myInput).ticket = none
  type : ServerPacket.ofType (PacketHeader.read m.mySocket.myInput).type = some .handshakeResponse
  errorCode : handshakeErrorCode m.mySocket.myInput = 0
  serverUID : (PacketHeader.read m.mySocket.myInput).fieldA ≠ 0
  long : 60 ≤ totalSize.toInt
  flagA : getInt m.mySocket.myInput 48 = 1
  flagB : getInt m.mySocket.myInput 52 = 1
  some : 0 < (getInt m.mySocket.myInput 56).toInt
  few : (getInt m.mySocket.myInput 56).toInt < 1000

theorem BringsServers.updatedServers_eq {m : DSNetManager} {totalSize : Int32}
    (h : m.BringsServers totalSize) :
    updatedServers m.mySocket.myInput totalSize = upTo readServer m.serverCount
      (m.serverBytes totalSize) := by
  obtain ⟨_, hall, _⟩ := cut_frame_length _ _ _ h.frame
  have hlong : totalSize ≥ 60 := (Word32.le_iff 60 totalSize).mpr h.long
  have hsome : getInt m.mySocket.myInput 56 > 0 := (Word32.lt_iff 0 _).mpr h.some
  have hfew : getInt m.mySocket.myInput 56 < 1000 := (Word32.lt_iff _ 1000).mpr h.few
  have hfit : totalSize.toInt.toNat ≤ m.mySocket.myInput.length := by omega
  have hlist := parseServers_eq hfit m.serverCount 60 (by have := h.long; omega)
  simp only [updatedServers, hlong, h.flagA, h.flagB, hsome, hfew, and_self, if_true]
  exact hlist

/-- The round that handles the response. -/
theorem BringsServers.round {m : DSNetManager} {totalSize : Int32} (h : m.BringsServers totalSize) :
    m.processInputBody.state.myServers =
        (if updatedServers m.mySocket.myInput totalSize = [] then m.myServers
          else updatedServers m.mySocket.myInput totalSize) ∧
      m.processInputBody.state.myServerRotation =
        if updatedServers m.mySocket.myInput totalSize = [] then m.myServerRotation else 0 := by
  have hframe := handleFrame_handshake m m.mySocket.myInput totalSize h.unclaimed h.type
  have haccepted := handleHandshakeResponse_accepted
    (m.emit (.handshake m.myConnectPhase (m.mySocket.myInput.take totalSize.toInt.toNat)))
    (PacketHeader.read m.mySocket.myInput) m.mySocket.myInput totalSize h.phase
    (not_or.mpr ⟨not_not_intro h.errorCode, h.serverUID⟩)
  rw [processInputBody_frame m totalSize h.frame, hframe, haccepted]
  exact acceptLogin_servers _ _ _ _

/-- **The server list is parsed exactly.** What is read is the longest list of at most the announced
number of entries that stands in the packet; it replaces the old list unless it is empty. A list
that was written in full is read back. -/
theorem server_list_exact (m : DSNetManager) (totalSize : Int32) (h : m.BringsServers totalSize) :
    (∃ servers, Longest encode Writable m.serverCount (m.serverBytes totalSize) servers ∧
      m.processInputBody.state.myServers = (if servers = [] then m.myServers else servers) ∧
      m.processInputBody.state.myServerRotation = if servers = [] then m.myServerRotation else 0) ∧
    ∀ servers rest, servers.length = m.serverCount → (∀ server ∈ servers, Writable server) →
      m.serverBytes totalSize = servers.flatMap encode ++ rest →
      m.processInputBody.state.myServers = servers ∧
        m.processInputBody.state.myServerRotation = 0 := by
  obtain ⟨hservers, hrotation⟩ := h.round
  rw [h.updatedServers_eq] at hservers hrotation
  have hlongest :=
    upTo_longest readServer_sound reads_server m.serverCount (m.serverBytes totalSize)
  refine ⟨⟨_, hlongest, hservers, hrotation⟩, fun servers rest hcount hall hbytes => ?_⟩
  have hfront : Front encode Writable m.serverCount (m.serverBytes totalSize) servers :=
    ⟨Nat.le_of_eq hcount, hall, by rw [hbytes]; exact List.prefix_append _ _⟩
  have hread := hlongest.eq_of_full hfront hcount
  have hsome : servers ≠ [] := by
    intro hempty
    rw [hempty] at hcount
    have hpositive := h.some
    simp only [serverCount, List.length_nil] at hcount
    omega
  rw [hread, if_neg hsome] at hservers hrotation
  exact ⟨hservers, hrotation⟩

/-- A login response with one server and a few more bytes. -/
def listedResponse : Bytes :=
  PacketHeader.write { type := 0x0A, fieldA := 1, fieldB := 1, fieldC := 5, fieldD := 1 } ++
    (List.replicate 12 0 ++ putInt 27 ++ putInt 1 ++ putInt 1 ++ putInt 1 ++
      encode ⟨ascii "a", ascii "b", 49152, 1⟩ ++ [7, 7, 7])

/-- A client that has received it. -/
def toldServers : DSNetManager :=
  { fresh with
    myConnectPhase := .awaitHandshake
    mySocket := { os := .idle, myHandle := some 3, myState := .connected, myInput := listedResponse } }

theorem server_list_exact_one :
    toldServers.processInputBody.state.myServers = [⟨ascii "a", ascii "b", 49152, 1⟩] :=
  ((server_list_exact toldServers 75
    ⟨rfl, by decide +kernel, by decide +kernel, by decide +kernel, by decide +kernel, by
      decide +kernel,
      by decide, by decide +kernel, by decide +kernel, by decide +kernel, by decide +kernel⟩).2
    [⟨ascii "a", ascii "b", 49152, 1⟩] [7, 7, 7] (by decide +kernel)
      (List.forall_mem_singleton.mpr ⟨by decide, by decide⟩) (by decide +kernel)).1

end DSNetManager
end NetNatsue
