import VerdaCapi.Cloud.ClientCache

/-!
# The credentials file

`readCredentialsFile` reads one profile of the file that the verda command line tool keeps: sections with a
header in brackets, assignments, and comments. The code goes through the lines with a flag that says whether
the last header named the profile. `linesUnder` says without a flag which lines belong to a profile, and
`readCredentialsFile_profile` that nothing else in the file matters.
-/

namespace VerdaCapi.Cloud

open Go

/-! ## The scanner -/

/-- `bufio.MaxScanTokenSize`. -/
def maxScanTokenSize : Nat := 64 * 1024

/-- What stands between the newlines. A newline at the end opens no further line. -/
def rawLines (text : Bytes) : List Bytes :=
  let parts := text.splitOn 0x0a
  if parts.getLast? = some [] then parts.dropLast else parts

/-- `dropCR` of `bufio.ScanLines`. -/
def dropCR (line : Bytes) : Bytes := if line.getLast? = some 0x0d then line.dropLast else line

/-- The lines that a `bufio.Scanner` returns, and whether it stopped at one that is too long. -/
def scanLines (text : Bytes) : List Bytes × Bool :=
  (((rawLines text).takeWhile fun l => decide (l.length < maxScanTokenSize)).map dropCR,
    (rawLines text).any fun l => decide (maxScanTokenSize ≤ l.length))

/-! ## Reading a profile -/

/-- Why `os.Open` fails. -/
inductive OpenErr where
  | notExist
  | other (message : String)

/-- The `switch` on the key of an assignment. -/
def Credentials.assign (creds : Credentials) (key value : Bytes) : Credentials :=
  if key = bytes "verda_base_url" then { creds with baseURL := value }
  else if key = bytes "verda_client_id" then { creds with clientID := value }
  else if key = bytes "verda_client_secret" then { creds with clientSecret := value }
  else creds

/-- The variables of the loop. -/
structure ReadState where
  creds : Credentials := {}
  inProfile : Bool := false

/-- One round of the loop of `readCredentialsFile`. -/
def readLine (profile : Bytes) (s : ReadState) (text : Bytes) : ReadState :=
  let line := trimSpace text
  if line = [] ∨ line.head? = some 0x23 ∨ line.head? = some 0x3b then s
  else if line.head? = some 0x5b ∧ line.getLast? = some 0x5d then
    { s with inProfile := decide (trimSpace line.tail.dropLast = profile) }
  else if s.inProfile = false then s
  else
    match cutByte line 0x3d with
    | none => s
    | some (key, value) => { s with creds := s.creds.assign (trimSpace key) (trimSpace value) }

/-- `readCredentialsFile`, from what opening the file gives. -/
def readCredentialsFile (file : Except OpenErr Bytes) (profile : Bytes) : Credentials × Option Err :=
  match file with
  | .error .notExist => ({}, none)
  | .error (.other m) => ({}, some ⟨.other, "opening credentials file: " ++ m⟩)
  | .ok text =>
    let creds := ((scanLines text).1.foldl (readLine profile) {}).creds
    if (scanLines text).2 then
      (creds, some ⟨.other, "reading credentials file: bufio.Scanner: token too long"⟩)
    else (creds, none)

/-! ## What belongs to a profile -/

/-- The name in a header. -/
def headerOf (text : Bytes) : Option Bytes :=
  let line := trimSpace text
  if line.head? = some 0x5b ∧ line.getLast? = some 0x5d then some (trimSpace line.tail.dropLast) else none

/-- The key and the value of an assignment; comments, headers and lines without `=` have none. -/
def assignmentOf (text : Bytes) : Option (Bytes × Bytes) :=
  let line := trimSpace text
  if line.head? = some 0x23 ∨ line.head? = some 0x3b ∨ (headerOf text).isSome then none
  else (cutByte line 0x3d).map fun kv => (trimSpace kv.1, trimSpace kv.2)

/-- The assignments up to the next header. -/
def sectionBody (lines : List Bytes) : List Bytes :=
  (lines.takeWhile fun l => (headerOf l).isNone).filter fun l => (assignmentOf l).isSome

/-- The assignments under headers that name the profile, as they stand in the file. -/
def linesUnder (profile : Bytes) : List Bytes → List Bytes
  | [] => []
  | l :: lines =>
    (if headerOf l = some profile then sectionBody lines else []) ++ linesUnder profile lines

/-- The value of the last assignment to a key, or the value that was there before. -/
def lastValue (key : String) (before : Bytes) (lines : List Bytes) : Bytes :=
  (((lines.filterMap assignmentOf).filter fun kv => kv.1 == bytes key).map Prod.snd).getLast?.getD before

section

variable {profile l : Bytes} {lines : List Bytes} {s : ReadState}

/-- What a line does to the credentials when it belongs to the profile. -/
def Credentials.assignLine (creds : Credentials) (l : Bytes) : Credentials :=
  match assignmentOf l with
  | none => creds
  | some kv => creds.assign kv.1 kv.2

/-- A header switches the flag. -/
theorem readLine_header {name : Bytes} (h : headerOf l = some name) :
    readLine profile s l = { s with inProfile := decide (name = profile) } := by
  unfold headerOf at h
  dsimp only at h
  split at h
  · rename_i hline
    cases h
    have hne : ¬ (trimSpace l = [] ∨ (trimSpace l).head? = some 0x23 ∨ (trimSpace l).head? = some 0x3b) := by
      rintro (h | h | h)
      · rw [h] at hline
        cases hline.1
      · rw [h] at hline
        cases hline.1
      · rw [h] at hline
        cases hline.1
    unfold readLine
    dsimp only
    rw [if_neg hne, if_pos hline]
  · cases h

/-- Any other line leaves the flag as it is, and counts only under the profile. -/
theorem readLine_other (h : headerOf l = none) : readLine profile s l =
    { s with creds := if s.inProfile then s.creds.assignLine l else s.creds } := by
  have hline : ¬ ((trimSpace l).head? = some 0x5b ∧ (trimSpace l).getLast? = some 0x5d) := by
    intro hline
    rw [headerOf] at h
    simp only [if_pos hline] at h
    cases h
  have hkeep : assignmentOf l = none →
      s = { s with creds := if s.inProfile then s.creds.assignLine l else s.creds } := by
    intro hnone
    rw [Credentials.assignLine, hnone]
    simp
  unfold readLine
  dsimp only
  by_cases hskip : trimSpace l = [] ∨ (trimSpace l).head? = some 0x23 ∨ (trimSpace l).head? = some 0x3b
  · -- blank lines and comments assign nothing
    rw [if_pos hskip]
    refine hkeep ?_
    rw [assignmentOf]
    rcases hskip with hblank | hcomment
    · simp [hblank, cutByte]
    · rw [if_pos (hcomment.imp_right .inl)]
  · rw [if_neg hskip, if_neg hline]
    cases hflag : s.inProfile with
    | false => rw [if_pos rfl, if_neg (by decide), ← hflag]
    | true =>
      have hassign : assignmentOf l =
          (cutByte (trimSpace l) 0x3d).map fun kv => (trimSpace kv.1, trimSpace kv.2) := by
        rw [assignmentOf, if_neg ?_]
        rw [h]
        tauto
      rw [if_neg (by decide), if_pos rfl, Credentials.assignLine, hassign]
      cases cutByte (trimSpace l) 0x3d with
      | none => rw [← hflag]; rfl
      | some kv => rfl

theorem assignLine_of_none {creds : Credentials} (h : assignmentOf l = none) :
    creds.assignLine l = creds := by
  rw [Credentials.assignLine, h]

theorem sectionBody_cons_header {name : Bytes} (h : headerOf l = some name) :
    sectionBody (l :: lines) = [] := by
  simp [sectionBody, h]

theorem sectionBody_cons_other (h : headerOf l = none) : sectionBody (l :: lines) =
    if (assignmentOf l).isSome then l :: sectionBody lines else sectionBody lines := by
  simp [sectionBody, h, List.filter_cons]

/-- **The loop.** The flag stands for the lines up to the next header; after that, the lines under
`profile` count. -/
theorem foldl_readLine (lines : List Bytes) (s : ReadState) :
    (lines.foldl (readLine profile) s).creds =
      ((if s.inProfile then sectionBody lines else []) ++ linesUnder profile lines).foldl
        Credentials.assignLine s.creds := by
  induction lines generalizing s with
  | nil => cases hflag : s.inProfile <;> simp [sectionBody, linesUnder]
  | cons l lines ih =>
    rw [List.foldl_cons, ih, linesUnder]
    cases hheader : headerOf l with
    | some name =>
      rw [readLine_header hheader, sectionBody_cons_header hheader]
      simp only [ite_self, List.nil_append, Option.some.injEq, decide_eq_true_eq]
    | none =>
      rw [readLine_other hheader, sectionBody_cons_other hheader]
      simp only [reduceCtorEq, if_false, List.nil_append]
      cases hflag : s.inProfile with
      | false => simp
      | true =>
        cases hassign : assignmentOf l with
        | none => simp [assignLine_of_none hassign]
        | some kv => simp

/-! ## The last assignment -/

variable {creds : Credentials}

/-- A field that one key assigns holds the last value that is assigned to the key. -/
theorem foldl_assignLine {field : Credentials → Bytes} {key : String}
    (hfield : ∀ (creds : Credentials) k v,
      field (creds.assign k v) = if k = bytes key then v else field creds)
    (lines : List Bytes) (creds : Credentials) :
    field (lines.foldl Credentials.assignLine creds) = lastValue key (field creds) lines := by
  induction lines generalizing creds with
  | nil => rfl
  | cons l lines ih =>
    rw [List.foldl_cons, ih, Credentials.assignLine, lastValue, lastValue, List.filterMap_cons]
    cases assignmentOf l with
    | none => rfl
    | some kv =>
      dsimp only
      rw [hfield, List.filter_cons]
      by_cases hkey : kv.1 = bytes key
      · rw [if_pos hkey, if_pos (by simpa using hkey), List.map_cons, List.getLast?_cons]
        rfl
      · rw [if_neg hkey, if_neg (by simpa using hkey)]

theorem assign_baseURL (creds : Credentials) (k v : Bytes) :
    (creds.assign k v).baseURL = if k = bytes "verda_base_url" then v else creds.baseURL := by
  unfold Credentials.assign
  split_ifs <;> rfl

theorem assign_clientID (creds : Credentials) (k v : Bytes) :
    (creds.assign k v).clientID = if k = bytes "verda_client_id" then v else creds.clientID := by
  have hurl : bytes "verda_base_url" ≠ bytes "verda_client_id" := by decide
  unfold Credentials.assign
  split_ifs with h₁ h₂ h₃ <;> first | rfl | exact absurd (h₁.symm.trans h₂) hurl

theorem assign_clientSecret (creds : Credentials) (k v : Bytes) :
    (creds.assign k v).clientSecret =
      if k = bytes "verda_client_secret" then v else creds.clientSecret := by
  have hurl : bytes "verda_base_url" ≠ bytes "verda_client_secret" := by decide
  have hid : bytes "verda_client_id" ≠ bytes "verda_client_secret" := by decide
  unfold Credentials.assign
  split_ifs with h₁ h₂ h₃ h₄
  · exact absurd (h₁.symm.trans h₂) hurl
  · rfl
  · exact absurd (h₃.symm.trans h₄) hid
  · rfl
  · rfl
  · rfl

/-- The credentials that a list of assignments gives. -/
def profileCredentials (lines : List Bytes) : Credentials where
  baseURL := lastValue "verda_base_url" [] lines
  clientID := lastValue "verda_client_id" [] lines
  clientSecret := lastValue "verda_client_secret" [] lines

theorem readCredentialsFile_eq {text : Bytes}
    (h : ∀ line ∈ rawLines text, line.length < maxScanTokenSize) :
    readCredentialsFile (.ok text) profile =
      (profileCredentials (linesUnder profile (scanLines text).1), none) := by
  have hscan : (scanLines text).2 = false := by
    simp only [scanLines, List.any_eq_false, decide_eq_true_eq, not_le]
    exact h
  have hcreds : ((scanLines text).1.foldl (readLine profile) {}).creds =
      profileCredentials (linesUnder profile (scanLines text).1) := by
    rw [foldl_readLine]
    generalize linesUnder profile (scanLines text).1 = lines
    simp only [Bool.false_eq_true, if_false, List.nil_append]
    rw [profileCredentials, ← foldl_assignLine assign_baseURL lines {},
      ← foldl_assignLine assign_clientID lines {}, ← foldl_assignLine assign_clientSecret lines {}]
  rw [readCredentialsFile]
  simp only [hscan, hcreds]
  rfl

/-- **Profiles do not leak into each other.** Two files with the same assignments under the profile give the
same credentials, and each field is the last value that is assigned to its key there. -/
theorem readCredentialsFile_profile {text text' : Bytes}
    (h : ∀ line ∈ rawLines text, line.length < maxScanTokenSize)
    (h' : ∀ line ∈ rawLines text', line.length < maxScanTokenSize)
    (hsame : linesUnder profile (scanLines text).1 = linesUnder profile (scanLines text').1) :
    readCredentialsFile (.ok text) profile = readCredentialsFile (.ok text') profile ∧
    readCredentialsFile (.ok text) profile =
      (profileCredentials (linesUnder profile (scanLines text).1), none) := by
  rw [readCredentialsFile_eq h, readCredentialsFile_eq h', hsame]
  exact ⟨rfl, rfl⟩

end

/-! ## Two files -/

def plainFile : Bytes := bytes "[ci]\nverda_client_id=a\n"

/-- The same assignment under `ci`, among others that do not count. -/
def crowdedFile : Bytes :=
  bytes "verda_client_id=b\n[dev]\nverda_client_id=c\n[ ci ]\r\n; d\nverda_client_id=a\nverda_client_id\n[dev]"

/-- Both files give the same credentials for the profile. -/
theorem readCredentialsFile_profile_sample :
    readCredentialsFile (.ok plainFile) (bytes "ci") = readCredentialsFile (.ok crowdedFile) (bytes "ci") := by
  refine (readCredentialsFile_profile ?_ ?_ ?_).1
  · decide +kernel
  · decide +kernel
  · decide +kernel

end VerdaCapi.Cloud
