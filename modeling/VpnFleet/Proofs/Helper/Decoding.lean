import VpnFleet.Proofs.Helper.Feeds
import VpnFleet.Proofs.Helper.Payload
import VpnFleet.Proofs.Json.Record

/-!
# What queries read

Each of the five records has its fields with their defaults. A query returns
exactly the records that the output of the helper gives, in the order of the
output, fails on an output that spoils a record, and does not look at the output
of a helper that failed.

* For each record, `wire` has its fields and `readBy_ofJson?` says that its reader
  finds in an object what the object gives.
* `Documents.ReadFrom` is what a query comes to when the helper leaves an output,
  and `Helper.query_readFrom` holds for every query.
-/

namespace VpnFleet

namespace RegionRecord

/-- The fields of a region. -/
def wire : WireRecord RegionRecord := [
  .required "name" .text name,
  .required "country" .text country]

theorem readBy_ofJson? : (Documents.single wire).ReadBy ofJson? := by
  refine Documents.readBy_of_build wire (fun _ => rfl) fun fields record => ?_
  simp only [Option.bind_eq_bind, Option.bind_eq_some_iff, Option.pure_def, Option.some.injEq]
  constructor
  · rintro ⟨_, hname, _, hcountry, rfl⟩
    exact ⟨hname, hcountry⟩
  · rintro ⟨hname, hcountry⟩
    exact ⟨_, hname, _, hcountry, rfl⟩

end RegionRecord

namespace InstanceRecord

/-- The fields of an instance as listed. -/
def wire : WireRecord InstanceRecord := [
  .required "id" .text id,
  .defaulted "name" .maybeText name none,
  .required "state" .text state,
  .defaulted "public_ip_v4" .text publicV4 "",
  .defaulted "public_ip_v6" .text publicV6 "",
  .defaulted "region" .maybeText region none]

theorem readBy_ofJson? : (Documents.single wire).ReadBy ofJson? := by
  refine Documents.readBy_of_build wire (fun _ => rfl) fun fields record => ?_
  simp only [Option.bind_eq_bind, Option.bind_eq_some_iff, Option.pure_def, Option.some.injEq]
  constructor
  · rintro ⟨_, hid, _, hname, _, hstate, _, hv4, _, hv6, _, hregion, rfl⟩
    exact ⟨hid, hname, hstate, hv4, hv6, hregion⟩
  · rintro ⟨hid, hname, hstate, hv4, hv6, hregion⟩
    exact ⟨_, hid, _, hname, _, hstate, _, hv4, _, hv6, _, hregion, rfl⟩

end InstanceRecord

namespace SpawnedRecord

/-- The fields of the answer to a spawn. -/
def wire : WireRecord SpawnedRecord := [
  .required "instance_id" .text id,
  .required "public_ip_v4" .text publicV4,
  .defaulted "public_ip_v6" .maybeText publicV6 none,
  .required "region" .text region]

theorem readBy_ofJson? : (Documents.single wire).ReadBy ofJson? := by
  refine Documents.readBy_of_build wire (fun _ => rfl) fun fields record => ?_
  simp only [Option.bind_eq_bind, Option.bind_eq_some_iff, Option.pure_def, Option.some.injEq]
  constructor
  · rintro ⟨_, hid, _, hv4, _, hv6, _, hregion, rfl⟩
    exact ⟨hid, hv4, hv6, hregion⟩
  · rintro ⟨hid, hv4, hv6, hregion⟩
    exact ⟨_, hid, _, hv4, _, hv6, _, hregion, rfl⟩

end SpawnedRecord

namespace StatusRecord

/-- The fields of a status. -/
def wire : WireRecord StatusRecord := [
  .required "connected" .flag connected,
  .defaulted "instance_id" .maybeText instanceId none,
  .defaulted "public_ip_v4" .maybeText publicV4 none,
  .defaulted "public_ip_v6" .maybeText publicV6 none]

theorem readBy_ofJson? : (Documents.single wire).ReadBy ofJson? := by
  refine Documents.readBy_of_build wire (fun _ => rfl) fun fields record => ?_
  simp only [Option.bind_eq_bind, Option.bind_eq_some_iff, Option.pure_def, Option.some.injEq]
  constructor
  · rintro ⟨_, hconnected, _, hid, _, hv4, _, hv6, rfl⟩
    exact ⟨hconnected, hid, hv4, hv6⟩
  · rintro ⟨hconnected, hid, hv4, hv6⟩
    exact ⟨_, hconnected, _, hid, _, hv4, _, hv6, rfl⟩

end StatusRecord

namespace TrafficRecord

/-- The fields of a sample. -/
def wire : WireRecord TrafficRecord := [
  .required "bytes_sent" .count bytesSent,
  .required "bytes_received" .count bytesReceived,
  .required "packets_sent" .count packetsSent,
  .required "packets_received" .count packetsReceived,
  .required "upload_rate" .rate uploadRate,
  .required "download_rate" .rate downloadRate]

theorem readBy_ofJson? : (Documents.single wire).ReadBy ofJson? := by
  refine Documents.readBy_of_build wire (fun _ => rfl) fun fields record => ?_
  simp only [Option.bind_eq_bind, Option.bind_eq_some_iff, Option.pure_def, Option.some.injEq]
  constructor
  · rintro ⟨_, hsent, _, hreceived, _, hpacketsSent, _, hpacketsReceived, _, hupload, _, hdownload, rfl⟩
    exact ⟨hsent, hreceived, hpacketsSent, hpacketsReceived, hupload, hdownload⟩
  · rintro ⟨hsent, hreceived, hpacketsSent, hpacketsReceived, hupload, hdownload⟩
    exact ⟨_, hsent, _, hreceived, _, hpacketsSent, _, hpacketsReceived, _, hupload, _, hdownload, rfl⟩

end TrafficRecord

/-- What a query comes to when the helper leaves an output. -/
structure Documents.ReadFrom
    {α : Type} (documents : Documents α) (program resource : String) (output : HelperOutput)
    (outcome : Except HelperError α) : Prop where
  /-- A document printed with success is read as what it gives. -/
  read : ∀ document, output.code = some 0 → (documents.json document).Spelled output.stdout →
    ∀ answer, outcome = .ok answer ↔ documents.Gives answer document
  spoiled : ∀ document, output.code = some 0 → (documents.json document).Spelled output.stdout →
    documents.Spoiled document → ∃ detail, outcome = .error (.parse resource detail)
  /-- What a helper prints that fails does not matter. -/
  failed : output.code ≠ some 0 →
    outcome = .error (.failure program output.code (resource ++ ": " ++ Text.trim output.stderr))

namespace Helper

variable {α : Type} {documents : Documents α} {decode? : Json → Option α}

/-- What is decoded from a printed document. -/
theorem decode_eq_ok_iff
    (hread : documents.ReadBy decode?) (resource : String) (form : Json.Form)
    {document : documents.Document} {output : HelperOutput}
    (hspelled : (documents.json document).Spelled output.stdout) (answer : α) :
    decode resource form decode? output = .ok answer ↔ documents.Gives answer document := by
  rw [← hread document answer]
  unfold decode
  rw [Json.ofText?_of_spelled hspelled, Option.bind_some]
  cases decode? (documents.json document) with
  | none => simp
  | some found => simp

theorem decode_eq_ok_or_parse
    (resource : String) (form : Json.Form) (decode? : Json → Option α) (output : HelperOutput) :
    (∃ answer, decode resource form decode? output = .ok answer)
      ∨ ∃ detail, decode resource form decode? output = .error (.parse resource detail) := by
  unfold decode
  split
  · exact .inl ⟨_, rfl⟩
  · exact .inr ⟨_, rfl⟩

/-- Every query reads what the helper prints for it. -/
theorem query_readFrom
    (hread : documents.ReadBy decode?) (helper : Helper) (program : String) (call : Call)
    (form : Json.Form) {output : HelperOutput}
    (leaves : (helper.run (invocation program call)).2 = .ok output) :
    documents.ReadFrom program call.resource output
      (helper.query program call form decode?).2 := by
  have hquery : (helper.query program call form decode?).2
      = (output.demand program call.resource).bind (decode call.resource form decode?) := by
    rw [query_eq, runChecked_eq, leaves]
    rfl
  have hsuccess (h : output.code = some 0) : (helper.query program call form decode?).2
      = decode call.resource form decode? output := by
    have hdemand : output.isSuccess = true := decide_eq_true h
    rw [hquery, HelperOutput.demand, if_pos hdemand]
    rfl
  constructor
  case read =>
    intro document hcode hspelled answer
    rw [hsuccess hcode]
    exact decode_eq_ok_iff hread _ _ hspelled answer
  case spoiled =>
    intro document hcode hspelled hspoiled
    rw [hsuccess hcode]
    refine (decode_eq_ok_or_parse _ _ _ _).resolve_left ?_
    rintro ⟨answer, hanswer⟩
    exact documents.not_gives hspoiled answer ((decode_eq_ok_iff hread _ _ hspelled answer).1 hanswer)
  case failed =>
    intro hcode
    have hdemand : ¬ output.isSuccess = true := fun h => hcode (of_decide_eq_true h)
    rw [hquery, HelperOutput.demand, if_neg hdemand]
    rfl

end Helper

namespace Transport

variable (transport : Transport)

/-- The run behind a call leaves an output. -/
def Leaves (call : Call) (output : HelperOutput) : Prop :=
  (transport.helper.run (Helper.invocation transport.program call)).2 = .ok output

/-- A subscription hands on the outcome of its first sample, and the feed that it opens holds
this sample. -/
theorem subscribe_hands_on :
    (transport.call .subscribe).2 = transport.sampled.map (fun _ => feedId transport.nextFeed)
      ∧ ∀ first, transport.sampled = .ok first → 0 < transport.buffer →
        ∃ feed, (transport.call .subscribe).1.feeds = transport.feeds ++ [feed]
          ∧ feed.id = feedId transport.nextFeed ∧ feed.channel.queue = [first] := by
  show (transport.subscribe).2 = _ ∧ ∀ first, _ → _ → ∃ feed, (transport.subscribe).1.feeds = _ ∧ _
  rw [subscribe_eq]
  cases hsampled : transport.sampled with
  | error error => exact ⟨rfl, nofun⟩
  | ok record =>
    refine ⟨rfl, ?_⟩
    rintro first ⟨⟩ hroom
    refine ⟨_, rfl, rfl, ?_⟩
    show ((Channel.new transport.buffer).offer record).1.queue = _
    rw [Channel.offer_new hroom]
    rfl

/-- Each of the five queries reads exactly the records that the helper prints, fails with an error
of the parser when a record is spoiled, and with the status of the helper when this failed. -/
theorem queries_read_records (output : HelperOutput) :
    (transport.Leaves .listRegions output →
        (Documents.listing RegionRecord.wire).ReadFrom transport.program "regions" output
          (transport.call .listRegions).2)
      ∧ (∀ region, transport.Leaves (.listInstances region) output →
        (Documents.listing InstanceRecord.wire).ReadFrom transport.program "instances" output
          (transport.call (.listInstances region)).2)
      ∧ (∀ region, transport.Leaves (.spawn region) output →
        (Documents.single SpawnedRecord.wire).ReadFrom transport.program "instance spawn" output
          (transport.call (.spawn region)).2)
      ∧ (transport.Leaves .status output →
        (Documents.single StatusRecord.wire).ReadFrom transport.program "vpn status" output
          (transport.call .status).2)
      ∧ (transport.Leaves .subscribe output →
        (Documents.single TrafficRecord.wire).ReadFrom transport.program "metrics" output
          transport.sampled)
      ∧ (transport.call .subscribe).2 = transport.sampled.map (fun _ => feedId transport.nextFeed)
      ∧ ∀ first, transport.sampled = .ok first → 0 < transport.buffer →
        ∃ feed, (transport.call .subscribe).1.feeds = transport.feeds ++ [feed]
          ∧ feed.id = feedId transport.nextFeed ∧ feed.channel.queue = [first] := by
  refine ⟨fun leaves => ?_, fun region leaves => ?_, fun region leaves => ?_, fun leaves => ?_,
    fun leaves => ?_, transport.subscribe_hands_on⟩
  · exact Helper.query_readFrom RegionRecord.readBy_ofJson?.listing _ _ _ _ leaves
  · exact Helper.query_readFrom InstanceRecord.readBy_ofJson?.listing _ _ _ _ leaves
  · exact Helper.query_readFrom SpawnedRecord.readBy_ofJson? _ _ _ _ leaves
  · exact Helper.query_readFrom StatusRecord.readBy_ofJson? _ _ _ _ leaves
  · exact Helper.query_readFrom TrafficRecord.readBy_ofJson? _ _ _ _ leaves

/-- An instance that was listed with its fields in another order, with an unknown field between
them and without those that have a default. -/
def listedBriefly : HelperOutput where
  code := some 0
  stdout := "[\x7b\"state\":\"up\",\"zone\":null,\"id\":\"i-1\"\x7d]"
  stderr := ""

/-- A status that gives the flag twice. -/
def connectedTwice : HelperOutput where
  code := some 0
  stdout := "\x7b\"connected\":true,\"connected\":true\x7d"
  stderr := ""

/-- A helper that was killed, with an output that could be read. -/
def killedLate : HelperOutput where
  code := none
  stdout := "[]"
  stderr := "killed\n"

/-- A short listing is read with the defaults, a repeated field is refused, and the output of a
helper that was killed is not looked at. -/
theorem short_repeated_and_late_outputs :
    let transport (output : HelperOutput) := Transport.new Settings.default (.queue [output])
    ((transport listedBriefly).call (.listInstances "eu-1")).2
        = .ok [{
          id := "i-1", name := none, state := "up", publicV4 := "", publicV6 := ""
          region := none }]
      ∧ (∃ detail, ((transport connectedTwice).call .status).2
        = .error (.parse "vpn status" detail))
      ∧ ((transport killedLate).call .listRegions).2
        = .error (.failure Settings.default.backendBin none "regions: killed") := by
  intro transport
  have hblanks : Json.Blanks [] := nofun
  have hstring (s : String) := Json.spellsString_writeString s
  refine ⟨?listed, ?repeated, ?killed⟩
  case listed =>
    let members : List (String × Json) :=
      [("state", .string (some "up")), ("zone", .null), ("id", .string (some "i-1"))]
    have hmembers := Json.Spells.member hblanks (hstring "state") hblanks (.string (hstring "up"))
      (.member hblanks (hstring "zone") hblanks .null
        (.lastMember hblanks (hstring "id") hblanks (.string (hstring "i-1"))))
    have hspelled : ((Documents.listing InstanceRecord.wire).json [members]).Spelled
        listedBriefly.stdout := by
      have hspells := Json.Spells.array (.lastItem (.object hmembers))
      refine Eq.subst (motive := Json.Spells _) ?_ hspells
      decide +kernel
    have hread := (queries_read_records (transport listedBriefly) listedBriefly).2.1 "eu-1" rfl
    refine (hread.read _ rfl hspelled _).2 (.cons (List.forall_iff_forall_mem.1 ?_) .nil)
    exact ⟨.once rfl (.text "i-1"), .leftOut rfl rfl, .once rfl (.text "up"), .leftOut rfl rfl,
      .leftOut rfl rfl, .leftOut rfl rfl⟩
  case repeated =>
    have hmembers := Json.Spells.member hblanks (hstring "connected") hblanks .true
      (.lastMember hblanks (hstring "connected") hblanks .true)
    have hspelled : ((Documents.single StatusRecord.wire).json
        [("connected", .bool true), ("connected", .bool true)]).Spelled connectedTwice.stdout := by
      refine Eq.subst (motive := Json.Spells _) ?_ (Json.Spells.object hmembers)
      decide +kernel
    have hread := (queries_read_records (transport connectedTwice) connectedTwice).2.2.2.1 rfl
    exact hread.spoiled _ rfl hspelled ⟨_, .head _, .inr (Nat.le_refl 2)⟩
  case killed =>
    exact ((queries_read_records (transport killedLate) killedLate).1 rfl).failed nofun

end Transport
end VpnFleet
