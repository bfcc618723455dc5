import VpnFleet.Proofs.Helper.Conversation
import VpnFleet.Proofs.Json.Reading

/-!
# The payload of credentials

Credentials reach the helper as a JSON text on its standard input. Whatever
characters the key and the secret have, the text spells an object with just
these two, so it is read as they were entered, less the blanks around them. The
provider is an argument of the run and no part of the text.

* `spellsString_writeString` says that every written string is a spelling of it,
  one character after the other.
* `Credentials.payload_spelled` puts the object together.
-/

namespace VpnFleet
namespace Json

theorem unit?_writeChar :
    ∀ n < 0x20, unit? '0' '0' (hexDigit (n / 16)) (hexDigit (n % 16)) = some n := by
  decide

/-- A written character spells itself. -/
theorem spellsChars_writeChar {text cs : List Char} (rest : SpellsChars (some text) cs) (c : Char) :
    SpellsChars (some (c :: text)) (writeChar c ++ cs) := by
  unfold writeChar
  split_ifs with hquote hbackslash hb hf hn hr ht hcontrol
  · subst hquote
    exact .letter rfl rest
  · subst hbackslash
    exact .letter rfl rest
  · subst hb
    exact .letter rfl rest
  · subst hf
    exact .letter rfl rest
  · subst hn
    exact .letter rfl rest
  · subst hr
    exact .letter rfl rest
  · subst ht
    exact .letter rfl rest
  · have hunit := unit?_writeChar c.toNat hcontrol
    have hleading : isLeading c.toNat = false := by
      simp [isLeading]
      omega
    have htrailing : isTrailing c.toNat = false := by
      simp [isTrailing]
      omega
    have hspelled := SpellsChars.unit hunit hleading htrailing rest
    rw [Char.ofNat_toNat] at hspelled
    exact hspelled
  · exact .plain (Nat.le_of_not_lt hcontrol) hquote hbackslash rest

theorem spellsChars_flatMap_writeChar (text : List Char) :
    SpellsChars (some text) (text.flatMap writeChar) := by
  induction text with
  | nil => exact .nil
  | cons c text ih =>
    rw [List.flatMap_cons]
    exact spellsChars_writeChar ih c

theorem spellsString_writeString (s : String) : SpellsString (some s) (writeString s).toList := by
  have hspelled := SpellsString.quoted (spellsChars_flatMap_writeChar s.toList)
  rw [Option.map_some, String.ofList_toList] at hspelled
  unfold writeString writeChars
  rw [String.toList_ofList]
  exact hspelled

end Json

namespace Credentials

variable (credentials : Credentials)

/-- The key and the secret. -/
def fields : Json :=
  .object [
    (some "access_key_id", .string (some credentials.accessKeyId)),
    (some "secret_access_key", .string (some credentials.secretAccessKey))]

/-- The payload, mark by mark. -/
theorem toList_payload :
    credentials.payload.toList
      = '\x7b' :: ((Json.writeString "access_key_id").toList ++ ':' ::
        ((Json.writeString credentials.accessKeyId).toList ++ ',' ::
          ((Json.writeString "secret_access_key").toList ++ ':' ::
            ((Json.writeString credentials.secretAccessKey).toList ++ ['\x7d'])))) := by
  have hkey : "\x7b\"access_key_id\":".toList
      = '\x7b' :: ((Json.writeString "access_key_id").toList ++ [':']) := by
    decide +kernel
  have hsecret : ",\"secret_access_key\":".toList
      = ',' :: ((Json.writeString "secret_access_key").toList ++ [':']) := by
    decide +kernel
  have hend : "\x7d".toList = ['\x7d'] := by
    decide +kernel
  unfold payload
  simp only [String.toList_append, hkey, hsecret, hend, List.cons_append, List.append_assoc,
    List.nil_append]

theorem payload_spelled : credentials.fields.Spelled credentials.payload := by
  have hblanks : Json.Blanks [] := nofun
  have hstring (s : String) := Json.spellsString_writeString s
  have hsecret := Json.Spells.lastMember hblanks (hstring "secret_access_key") hblanks
    (.string (hstring credentials.secretAccessKey))
  have hmembers := Json.Spells.member hblanks (hstring "access_key_id") hblanks
    (.string (hstring credentials.accessKeyId)) hsecret
  unfold Json.Spelled
  rw [toList_payload]
  exact .object hmembers

end Credentials

namespace Transport

/-- The run that saves credentials has a text on its standard input that is read as the key and the
secret as they were entered, less the blanks around them, and as nothing else. The provider is
its last argument and has no influence on the text. -/
theorem saved_payload_is_read_back (transport : Transport) (provider key secret : String) :
    let credentials := Credentials.entered provider key secret
    let fields := Json.object [
      (some "access_key_id", .string (some credentials.accessKeyId)),
      (some "secret_access_key", .string (some credentials.secretAccessKey))]
    Text.TrimsTo provider credentials.provider
      ∧ Text.TrimsTo key credentials.accessKeyId
      ∧ Text.TrimsTo secret credentials.secretAccessKey
      ∧ (transport.call (.saveCredentials credentials)).1.helper.log
        = transport.helper.log ++ [{
            program := transport.program
            args := ["credentials", "save", "--provider", credentials.provider]
            stdin := some credentials.payload }]
      ∧ fields.Spelled credentials.payload
      ∧ Json.ofText? credentials.payload = some fields
      ∧ ∀ other, (Credentials.entered other key secret).payload = credentials.payload := by
  intro credentials fields
  have hspelled : fields.Spelled credentials.payload := credentials.payload_spelled
  refine ⟨Text.trimsTo_trim provider, Text.trimsTo_trim key, Text.trimsTo_trim secret, ?_,
    hspelled, Json.ofText?_of_spelled hspelled, fun _ => rfl⟩
  rw [call_of_plain _ rfl]
  exact Helper.run_log _ _

end Transport
end VpnFleet
