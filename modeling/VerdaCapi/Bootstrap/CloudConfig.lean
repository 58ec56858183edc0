import VerdaCapi.Codec.Base64
import VerdaCapi.Go.Text

/-!
# Bootstrap data as a startup script

Reference: `internal/bootstrap/cloudconfig.go`: the hostname placeholders and the `write_files` section.
-/

namespace VerdaCapi.Bootstrap

open Go

/-- `hostnamePlaceholders`. -/
def hostnamePlaceholders : List Bytes :=
  [bytes "\x7b\x7b ds.meta_data.hostname \x7d\x7d",
    bytes "\x7b\x7b ds.meta_data.local_hostname \x7d\x7d",
    bytes "\x7b\x7bds.meta_data.hostname\x7d\x7d",
    bytes "\x7b\x7bds.meta_data.local_hostname\x7d\x7d"]

/-- The placeholders of `ToStartupScript`, replaced one after the other. -/
def resolveHostname (data : Bytes) (hostname : String) : Bytes :=
  hostnamePlaceholders.foldl (fun data placeholder => replaceAll data placeholder (bytes hostname)) data

/-- A placeholder becomes a hostname without braces. -/
theorem resolveHostname_placeholder {hostname : String} (hname : 0x7b ∉ bytes hostname)
    {placeholder : Bytes} (hp : placeholder ∈ hostnamePlaceholders) :
    resolveHostname placeholder hostname = bytes hostname := by
  -- once the hostname stands there, no later placeholder is found
  have hkeep : ∀ old : Bytes, old.head? = some 0x7b →
      replaceAll (bytes hostname) old (bytes hostname) = bytes hostname :=
    fun old hold => replaceAll_of_not_mem hold hname
  have hself : ∀ p ∈ hostnamePlaceholders, replaceAll p p (bytes hostname) = bytes hostname := by
    intro p hp
    simp only [hostnamePlaceholders, List.mem_cons, List.not_mem_nil, or_false] at hp
    rcases hp with rfl | rfl | rfl | rfl <;> exact List.append_nil (bytes hostname)
  have hother : ∀ p ∈ hostnamePlaceholders, ∀ q ∈ hostnamePlaceholders, p ≠ q →
      replaceAll p q (bytes hostname) = p := by
    intro p hp q hq hne
    simp only [hostnamePlaceholders, List.mem_cons, List.not_mem_nil, or_false] at hp hq
    rcases hp with rfl | rfl | rfl | rfl <;> rcases hq with rfl | rfl | rfl | rfl <;>
      first | rfl | exact absurd rfl hne
  simp only [hostnamePlaceholders, List.mem_cons, List.not_mem_nil, or_false] at hp hself hother
  simp only [resolveHostname, hostnamePlaceholders, List.foldl_cons, List.foldl_nil]
  rcases hp with rfl | rfl | rfl | rfl
  · rw [hself _ (.inl rfl), hkeep _ (by decide), hkeep _ (by decide), hkeep _ (by decide)]
  · rw [hother _ (.inr (.inl rfl)) _ (.inl rfl) (by decide), hself _ (.inr (.inl rfl)),
      hkeep _ (by decide), hkeep _ (by decide)]
  · rw [hother _ (.inr (.inr (.inl rfl))) _ (.inl rfl) (by decide),
      hother _ (.inr (.inr (.inl rfl))) _ (.inr (.inl rfl)) (by decide),
      hself _ (.inr (.inr (.inl rfl))), hkeep _ (by decide)]
  · rw [hother _ (.inr (.inr (.inr rfl))) _ (.inl rfl) (by decide),
      hother _ (.inr (.inr (.inr rfl))) _ (.inr (.inl rfl)) (by decide),
      hother _ (.inr (.inr (.inr rfl))) _ (.inr (.inr (.inl rfl))) (by decide),
      hself _ (.inr (.inr (.inr rfl)))]

/-- A text that ends in a placeholder gets the hostname there, if neither the text before it nor the
hostname has a brace. -/
theorem resolveHostname_append {text : Bytes} {hostname : String} (htext : 0x7b ∉ text)
    (hname : 0x7b ∉ bytes hostname) {placeholder : Bytes} (hp : placeholder ∈ hostnamePlaceholders) :
    resolveHostname (text ++ placeholder) hostname = text ++ bytes hostname := by
  have hsplit : resolveHostname (text ++ placeholder) hostname =
      text ++ resolveHostname placeholder hostname := by
    simp only [resolveHostname, hostnamePlaceholders, List.foldl_cons, List.foldl_nil]
    rw [replaceAll_append (b := 0x7b) (by decide) htext, replaceAll_append (b := 0x7b) (by decide) htext,
      replaceAll_append (b := 0x7b) (by decide) htext, replaceAll_append (b := 0x7b) (by decide) htext]
  rw [hsplit, resolveHostname_placeholder hname hp]

/-! ## write_files -/

/-- `writeFile`. -/
structure WriteFile where
  path : Bytes
  content : Bytes
  encoding : Bytes := []
  owner : Bytes := []
  permissions : Bytes := []
  append : Bool := false
deriving DecidableEq

/-- The errors of `writeFileScript`, by their format. -/
inductive WriteFileErr where
  /-- `"write_files[%d]: path is required"` -/
  | pathRequired (idx : Nat)
  /-- `"write_files[%d] (%s): decoding base64 content: %w"` -/
  | base64 (idx : Nat) (path : Bytes)
  /-- `"write_files[%d] (%s): unsupported content encoding %q"` -/
  | unsupported (idx : Nat) (path encoding : Bytes)
deriving DecidableEq

/-- `base64.StdEncoding.DecodeString`: line breaks do not count. -/
def decodeString (s : Bytes) : Option Bytes := Base64.decode (s.filter fun b => b ≠ 0x0a ∧ b ≠ 0x0d)

/-- `wrapBase64`. -/
def wrapBase64 (s : Bytes) : Bytes :=
  let width := 76
  if s.length > width then s.take width ++ [0x0a] ++ wrapBase64 (s.drop width) else s ++ [0x0a]
termination_by s.length
decreasing_by
  simp only [List.length_drop]
  omega

/-- `shellQuote`. -/
def shellQuote (s : Bytes) : Bytes :=
  if s = [] then bytes "''"
  else bytes "'" ++ replaceAll s (bytes "'") (bytes "'\\''") ++ bytes "'"

/-- The encoding names `decodeContent` decodes from base64. -/
def base64Names : List Bytes :=
  [bytes "b64", bytes "base64", bytes "gz+b64", bytes "gzip+base64", bytes "gz+base64",
    bytes "gzip+b64"]

/-- `decodeContent`, with the error it has for the entry. -/
def decodeContent (idx : Nat) (f : WriteFile) : Except WriteFileErr Bytes :=
  let name := lower (trimSpace f.encoding)
  if name ∈ [[], bytes "text/plain"] then .ok f.content
  else if name ∈ base64Names then
    match decodeString (trimSpace f.content) with
    | some decoded => .ok decoded
    | none => .error (.base64 idx f.path)
  else if name ∈ [bytes "gz", bytes "gzip"] then .ok f.content
  else .error (.unsupported idx f.path f.encoding)

/-- `isGzip`. -/
def isGzip (encoding : Bytes) : Bool := (bytes "gz").isPrefixOf (lower (trimSpace encoding))

/-- The delimiter of an entry. -/
def delimiter (idx : Nat) : Bytes := bytes "__CAPI_FILE_" ++ decimal idx ++ bytes "__"

/-- A line that runs a command on a path, if the setting is there. -/
def optionalLine (command setting path : Bytes) : Bytes :=
  if setting = [] then []
  else command ++ [0x20] ++ shellQuote setting ++ [0x20] ++ shellQuote path ++ [0x0a]

/-- `writeFileScript`. -/
def writeFileScript (idx : Nat) (f : WriteFile) : Except WriteFileErr Bytes :=
  if f.path = [] then .error (.pathRequired idx)
  else
    match decodeContent idx f with
    | .error e => .error e
    | .ok content =>
      let decoder := if isGzip f.encoding then bytes "base64 -d | gunzip" else bytes "base64 -d"
      let redirect := if f.append then bytes ">>" else bytes ">"
      .ok (bytes "mkdir -p " ++ shellQuote (pathDir f.path) ++ [0x0a] ++
        (decoder ++ [0x20] ++ redirect ++ [0x20] ++ shellQuote f.path ++ bytes " <<'" ++
          delimiter idx ++ bytes "'" ++ [0x0a]) ++
        wrapBase64 (Base64.encode content) ++
        (delimiter idx ++ [0x0a]) ++
        optionalLine (bytes "chmod") f.permissions f.path ++
        optionalLine (bytes "chown") f.owner f.path)

/-- The entries of the section, from the one with this index on; the first error ends the loop. -/
def writeEntries : Nat → List WriteFile → Except WriteFileErr Bytes
  | _, [] => .ok []
  | idx, f :: fs =>
    match writeFileScript idx f with
    | .error e => .error e
    | .ok text =>
      match writeEntries (idx + 1) fs with
      | .error e => .error e
      | .ok rest => .ok (text ++ rest)

/-- The `write_files` section of `ToStartupScript`. -/
def writeFilesSection (files : List WriteFile) : Except WriteFileErr Bytes :=
  if files = [] then .ok []
  else (writeEntries 0 files).map fun text => bytes "\n# write_files\n" ++ text

end VerdaCapi.Bootstrap
