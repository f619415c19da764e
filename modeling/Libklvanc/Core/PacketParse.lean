import Libklvanc.Core.Checksum
import Libklvanc.Scte104.Parse

/-!
# Scanning a line for packets

`klvanc_packet_parse` of `core-packets.c`: look for ancillary data packets on a line, take each one
apart, record it in the cache, hand it to the `all` callback and to the decoder of its type.

The words of the line are the list `arr` and the length announced by the caller is `len`; lengths
and positions are `unsigned int`, and so the bound `len - 7` and the rest `len - i` wrap. The faults
of the functions that read the line are the positions read outside it.
-/

namespace Libklvanc

/-- The word at position `i` of the line. -/
abbrev readWord (arr : List Word) (i : ℕ) : Checked ℕ Word := Checked.read id 0 arr i

/-- The `count` words of the line from position `start` on. -/
abbrev copyWords (arr : List Word) (start count : ℕ) : Checked ℕ (List Word) :=
  Checked.readRange id 0 arr start count

section Header

variable (arr : List Word) (off len : ℕ)

/-- The comparisons of `isValidHeader`, each made only if the ones before it hold. -/
def compareAdf : Checked ℕ Bool := do
  let w₀ ← readWord arr off
  if w₀.toNat < 3 then do
    let w₁ ← readWord arr (off + 1)
    if w₁ &&& 0x3fc = 0x3fc then do
      let w₂ ← readWord arr (off + 2)
      pure (w₂ &&& 0x3fc == 0x3fc)
    else pure false
  else pure false

/-- `isValidHeader`, on the `len` words from `off` on: whether an ADF stands there. A talkative
context prints the words. -/
def isValidHeader (ctx : KlvancContext) : Checked ℕ Bool := do
  let ret ← if 7 < len then compareAdf arr off else pure false
  if 2 < ctx.verbose ∧ ctx.logCb then (fun _ => ret) <$> copyWords arr off 3 else pure ret

/-- The table `types`: the identifiers of the packets that can be decoded. -/
def types : List (Word × Word × KlvancPacketType) :=
  [(0x40, 0xfe, .klUint64Counter),
    (0x41, 0x05, .afd),
    (0x41, 0x07, .scte104),
    (0x60, 0x60, .smpteS12_2),
    (0x41, 0x0c, .smpteS2108_1),
    (0x61, 0x01, .eia708b),
    (0x61, 0x02, .eia608),
    (0x43, 0x02, .sdp)]

/-- `lookupTypeByDID`. -/
def lookupTypeByDID (did sdid : Word) : KlvancPacketType :=
  match types.find? fun t => t.1 == did && t.2.1 == sdid with
  | some t => t.2.2
  | none => .undefined

/-- The part of `parse` behind the header check. The data count fits an octet and hence the payload
array. -/
def parseHeader : Checked ℕ KlvancPacketHeader := do
  let raw ← copyWords arr off len
  let adf₀ ← readWord arr off
  let adf₁ ← readWord arr (off + 1)
  let adf₂ ← readWord arr (off + 2)
  let did ← readWord arr (off + 3)
  let dbnsdid ← readWord arr (off + 4)
  let dataCount ← readWord arr (off + 5)
  let payloadLengthWords := (sanitizeWord dataCount).toNat
  let payload ← copyWords arr (off + 6) payloadLengthWords
  let checksum ← readWord arr (off + 6 + payloadLengthWords)
  let words ← copyWords arr (off + 3) (payloadLengthWords + 4)
  pure
    { type := lookupTypeByDID (sanitizeWord did) (sanitizeWord dbnsdid)
      adf := (adf₀, adf₁, adf₂)
      did := sanitizeWord did
      dbnsdid := sanitizeWord dbnsdid
      checksum
      payload
      checksumValid := klvancChecksumIsValid words
      lineNr := 0
      raw
      rawLengthWords := len
      horizontalOffset := 0 }

end Header

/-- `parse`: the header of the packet at `off`, if there is one. -/
def parse (run : KlvancRun) (arr : List Word) (off len : ℕ) :
    Except ℤ KlvancPacketHeader × KlvancRun :=
  let valid := isValidHeader arr off len run.ctx
  let run := run.addLineFaults valid.faults
  if valid.val then
    let hdr := parseHeader arr off len
    let run := run.addLineFaults hdr.faults
    let failures := run.ctx.checksumFailures
    (.ok hdr.val, { run with ctx := { run.ctx with
      checksumFailures := if hdr.val.checksumValid then failures else failures + 1 } })
  else (.error (-einval), run)

section Decoders

variable (run : KlvancRun) (hdr : KlvancPacketHeader)

/-- The common shape of the decoders of single packets: nothing is decoded unless the service's
callback is set; a decoded packet is handed to it. -/
def runDecoder {α : Type} (cb : KlvancCallbacks → Bool)
    (decode : KlvancPacketHeader → Checked Fault (Except ℤ α))
    (mkCall : KlvancPacketHeader → α → KlvancCall) : ℤ × KlvancRun :=
  if run.ctx.registered cb then
    let result := decode hdr
    let run := run.addFaults result.faults
    match result.val with
    | .error ret => (ret, run)
    | .ok pkt => (klapiOk, run.call (mkCall hdr pkt))
  else (klapiOk, run)

/-- `parseByType`: every type other than the undefined one has one entry in `types`. -/
def parseByType : ℤ × KlvancRun :=
  match hdr.type with
  | .undefined => (-einval, run)
  | .klUint64Counter =>
    runDecoder run hdr (·.klI64leCounter) (fun hdr => pure (parseKLU64LECounter hdr))
      .klI64leCounter
  | .afd => runDecoder run hdr (·.afd) (fun hdr => pure (parseAFD hdr)) .afd
  | .scte104 => parseSCTE104 run hdr
  | .smpteS12_2 =>
    runDecoder run hdr (·.smpte12_2) (fun hdr => pure (parseSMPTE12_2 hdr)) .smpte12_2
  | .smpteS2108_1 => runDecoder run hdr (·.smpte2108_1) parseSMPTE2108_1 .smpte2108_1
  | .eia708b => runDecoder run hdr (·.eia708b) parseEIA708B .eia708b
  | .eia608 => runDecoder run hdr (·.eia608) (fun hdr => pure (parseEIA608 hdr)) .eia608
  | .sdp => runDecoder run hdr (·.sdp) (fun hdr => pure (parseSDP hdr)) .sdp

/-- What the loop of `klvanc_packet_parse` does with a packet it found. -/
def processPacket : KlvancRun :=
  let run := run.setCacheLines (klvancCacheUpdate run.ctx.cacheLines hdr).1
  if run.ctx.reports hdr then
    (parseByType (if run.ctx.registered (·.all) then run.call (.all hdr) else run) hdr).2
  else run

end Decoders

section Loop

variable (lineNr : ℕ) (arr : List Word) (len : ℕ)

/-- The loop of `klvanc_packet_parse`, at position `i` with `attempts` packets found. Every round
moves on by one word or more, so that `bound` rounds reach the bound. -/
def klvancPacketParseLoop (bound : ℕ) : ℕ → ℕ → ℤ → KlvancRun → ℤ × KlvancRun
  | 0, _, attempts, run => (attempts, run)
  | fuel + 1, i, attempts, run =>
    if i < bound then
      match parse run arr i (uintSub len i) with
      | (.error _, run) => klvancPacketParseLoop bound fuel (i + 1) attempts run
      | (.ok hdr, run) =>
        let hdr := { hdr with horizontalOffset := i % 2 ^ 16, lineNr := lineNr }
        klvancPacketParseLoop bound fuel (i + 7) (attempts + 1) (processPacket run hdr)
    else (attempts, run)

/-- `klvanc_packet_parse`. -/
def klvancPacketParse (run : KlvancRun) : ℤ × KlvancRun :=
  if len = 0 then (-einval, run)
  else if packetMaxPayload < len then (-einval, run)
  else
    let bound := uintSub len 7
    klvancPacketParseLoop lineNr arr len bound bound 0 0 run

end Loop

end Libklvanc
