import UltimateEnigma.LegacyRoundTrip
import UltimateEnigma.Machine
import UltimateEnigma.RecoveryUnlock
import Mathlib.Logic.Function.Basic

set_option autoImplicit false

namespace UltimateEnigma.SocialRecovery

open Py Crypto

/-- A recovery key, and the polynomials it was split with. -/
structure Split where
  key : Bytes
  numShares : Nat
  threshold : Nat
  draws : Shamir.Draws key.length threshold

/-- Which share of which split. It is kept beside the data for the statements below only. -/
structure Origin where
  split : Nat
  position : Nat
deriving DecidableEq

/-- A `.enigma-share` file, as the split or an export wrote it. -/
structure ShareFile (Pub : Type) where
  shareId : String
  ownerName : String
  holderName : String
  shareIndex : Int
  totalShares : Nat
  threshold : Nat
  encryptedShareB64 : String
  sealedFor : Option Pub := none
  origin : Option Origin := none
deriving Inhabited

/-- A row of `held_shares`. -/
structure HeldRow where
  ownerName : String
  holderName : String
  shareIndex : Int
  totalShares : Nat
  threshold : Nat
  plaintextShareB64 : String
  origin : Option Origin

/-- A row of the recover tab: the number and the entry. -/
structure EntryRow where
  idxVar : Int
  entry : String
  origin : Option Origin := none

/-- What the dialog works on at one person's: the keys, the friends, the two tables and the
recover tab. -/
structure Desk (Priv Pub : Type) where
  myPriv : Option Priv
  myName : String
  friends : List (String × Pub)
  recoveryShares : Dict String (ShareFile Pub)
  heldShares : Dict String HeldRow
  entries : List EntryRow

inductive SplitError where
  | noFriendsSelected
  | invalidParameters
  | notEnoughFriends
  | missingPublicKeys (names : List String)
  | shamir (raised : Shamir.Raised)
  | attributeError
  | integrityError
deriving DecidableEq

inductive ReconstructError where
  | insufficientShares
  | invalidShares (failure : RecoveryUnlock.Failure)
  | differentLengths
  | reconstructionFailed (raised : Shamir.Raised)
deriving DecidableEq

/-- What a press of the split button is given: the selected names, the two numbers, the key that
`generate_recovery_key(32)` draws, what the split and the encryption draw, and the time. -/
structure Splitting where
  selectedNames : List String
  split : Split
  seeds : Int → Bytes
  now : Rat

section Dialog

variable {Priv Pub : Type} (L : MessageLibrary Priv Pub)

abbrev DeskCall (Priv Pub α : Type) : Type := Call SplitError (Desk Priv Pub) α

/-- `get_friend_rsa_pub`. -/
def getFriendRsaPub (desk : Desk Priv Pub) (name : String) : Option Pub := desk.friends.lookup name

/-- `decrypt_share`; `none` is a locked key store or what OAEP refuses. -/
def decryptShare (desk : Desk Priv Pub) (encrypted : Bytes) : Option Bytes :=
  desk.myPriv.bind fun priv => L.rsaDecrypt priv encrypted

/-- `f"{int(now * 1000)}-{share_index}"`. -/
def shareId (now : Rat) (shareIndex : Int) : String :=
  toString (toInt (now * 1000)) ++ "-" ++ toString shareIndex

/-- The share as it goes into the table and into its file. -/
def sharePayload (desk : Desk Priv Pub) (request : Splitting) (number idx : Nat)
    (share : Int × Bytes) (holder : String) (pub : Pub) : ShareFile Pub where
  shareId := shareId request.now share.1
  ownerName := if desk.myName = "" then "owner" else desk.myName
  holderName := holder
  shareIndex := share.1
  totalShares := request.split.numShares
  threshold := request.split.threshold
  encryptedShareB64 := b64encode (L.rsaEncrypt pub share.2 (request.seeds share.1))
  sealedFor := some pub
  origin := some ⟨number, idx⟩

/-- The loop of `_work`, from the shares that remain. Each row is committed on its own, and an id
that is there already raises. -/
def saveShares (request : Splitting) (number : Nat) :
    Nat → List (Int × Bytes) → DeskCall Priv Pub (List (ShareFile Pub))
  | _, [] => pure []
  | idx, share :: rest => do
      let desk ← Call.read
      let holder := request.selectedNames.getD idx ("Share " ++ toString share.1)
      match getFriendRsaPub desk holder with
      | none => Call.raise .attributeError
      | some pub =>
          let file := sharePayload L desk request number idx share holder pub
          if (desk.recoveryShares.get? file.shareId).isSome then Call.raise .integrityError
          else do
            Call.modify fun desk =>
              { desk with recoveryShares := desk.recoveryShares.set file.shareId file }
            let others ← saveShares request number (idx + 1) rest
            return file :: others

/-- `do_split`, and the files that its buttons then export. -/
def doSplit (request : Splitting) (number : Nat) : DeskCall Priv Pub (List (ShareFile Pub)) := do
  let desk ← Call.read
  let missing := request.selectedNames.filter fun name => (getFriendRsaPub desk name).isNone
  if request.selectedNames.isEmpty then Call.raise .noFriendsSelected
  else if request.split.numShares < request.split.threshold then Call.raise .invalidParameters
  else if request.selectedNames.length < request.split.numShares then
    Call.raise .notEnoughFriends
  else if !missing.isEmpty then Call.raise (.missingPublicKeys missing)
  else do
    let shares ← Call.lift ((Shamir.splitSecret request.split.key request.split.numShares
      request.split.threshold request.split.draws).mapError SplitError.shamir)
    saveShares L request number 0 shares

/-- What is known of a share that was read with one's own key. -/
def readOrigin [DecidableEq Pub] (desk : Desk Priv Pub) (file : ShareFile Pub) : Option Origin :=
  if file.sealedFor = desk.myPriv.map L.publicKey then file.origin else none

/-- What both imports read out of a file before they keep it. -/
def openShare (desk : Desk Priv Pub) (file : ShareFile Pub) : Option Bytes :=
  if file.encryptedShareB64 = "" then none
  else (b64decode file.encryptedShareB64).toOption.bind (decryptShare L desk)

/-- `import_held_share`: `INSERT OR REPLACE` of the decrypted share. -/
def importHeldShare [DecidableEq Pub] (desk : Desk Priv Pub) (file : ShareFile Pub) :
    Desk Priv Pub :=
  match openShare L desk file with
  | none => desk
  | some plain =>
      { desk with
        heldShares := desk.heldShares.set file.shareId
          { ownerName := file.ownerName
            holderName := file.holderName
            shareIndex := file.shareIndex
            totalShares := file.totalShares
            threshold := file.threshold
            plaintextShareB64 := b64encode plain
            origin := readOrigin L desk file } }

/-- `import_share_file` of the recover tab. -/
def importShareFile [DecidableEq Pub] (desk : Desk Priv Pub) (file : ShareFile Pub) :
    Desk Priv Pub :=
  match openShare L desk file with
  | none => desk
  | some plain =>
      { desk with
        entries := desk.entries ++
          [{ idxVar := file.shareIndex
             entry := b64encode plain
             origin := readOrigin L desk file }] }

/-- `export_back`. An owner who is no friend gets the plain share, if the user insists. -/
def exportBack (desk : Desk Priv Pub) (id : String) (seed : Bytes) (proceed : Bool) :
    Option (ShareFile Pub) :=
  match desk.heldShares.get? id with
  | none => none
  | some row =>
      let file : ShareFile Pub :=
        { shareId := id
          ownerName := row.ownerName
          holderName := row.holderName
          shareIndex := row.shareIndex
          totalShares := row.totalShares
          threshold := row.threshold
          encryptedShareB64 := row.plaintextShareB64 }
      match b64decode row.plaintextShareB64 with
      | .error _ => none
      | .ok plain =>
          match getFriendRsaPub desk row.ownerName with
          | some pub =>
              some { file with
                encryptedShareB64 := b64encode (L.rsaEncrypt pub plain seed)
                sealedFor := some pub
                origin := row.origin }
          | none => if proceed then some file else none

/-- The recover tab as it opens. -/
def openedTab (desk : Desk Priv Pub) : Desk Priv Pub :=
  { desk with entries := [⟨1, "", none⟩, ⟨2, "", none⟩, ⟨3, "", none⟩] }

/-- The rows of the recover tab that are not blank. -/
def rawShares (rows : List EntryRow) : List (Int × String) :=
  rows.filterMap fun row =>
    if strip row.entry = "" then none else some (row.idxVar, strip row.entry)

/-- `do_reconstruct` and its work. -/
def doReconstruct (rows : List EntryRow) : Except ReconstructError Bytes :=
  let raw := rawShares rows
  if raw.length < 2 then .error .insufficientShares
  else
    match RecoveryUnlock.parseShares raw with
    | .error failure => .error (.invalidShares failure)
    | .ok parsed =>
        if (parsed.map fun share => share.2.length).dedup.length ≠ 1 then .error .differentLengths
        else
          (Shamir.reconstructSecret parsed (RecoveryUnlock.expectedLen parsed)).mapError
            ReconstructError.reconstructionFailed

end Dialog

/-- The people, and the files that go between them. -/
structure World (Person Priv Pub : Type) where
  desk : Person → Desk Priv Pub
  files : List (ShareFile Pub)
  splits : List Split

/-- `editRow`, `setFriends` and `setKey` are what else can happen to a desk. -/
inductive Event (Person Priv Pub : Type) where
  | split (person : Person) (request : Splitting)
  | importHeld (person : Person) (file : ShareFile Pub)
  | exportBack (person : Person) (id : String) (seed : Bytes) (proceed : Bool)
  | deleteSelected (person : Person) (ids : List String)
  | openTab (person : Person)
  | addShare (person : Person)
  | removeLast (person : Person)
  | editRow (person : Person) (row : Nat) (idxVar : Int) (entry : String)
  | importFile (person : Person) (file : ShareFile Pub)
  | setFriends (person : Person) (friends : List (String × Pub))
  | setKey (person : Person) (priv : Option Priv)

section Runs

variable {Person Priv Pub : Type} [DecidableEq Person]
variable (L : MessageLibrary Priv Pub)

def World.withDesk (world : World Person Priv Pub) (person : Person) (after : Desk Priv Pub) :
    World Person Priv Pub :=
  { world with desk := Function.update world.desk person after }

@[simp] theorem World.withDesk_self (world : World Person Priv Pub) (person : Person)
    (after : Desk Priv Pub) : (world.withDesk person after).desk person = after :=
  Function.update_self _ _ _

theorem World.withDesk_of_ne (world : World Person Priv Pub) {person other : Person}
    (after : Desk Priv Pub) (apart : other ≠ person) :
    (world.withDesk person after).desk other = world.desk other :=
  Function.update_of_ne apart _ _

/-- A split that raised has exported nothing. -/
def applySplit (world : World Person Priv Pub) (person : Person) (request : Splitting) :
    World Person Priv Pub :=
  let result := (doSplit L request world.splits.length).run (world.desk person)
  { world.withDesk person result.2 with
    files := world.files ++ result.1.toOption.getD []
    splits := world.splits ++ [request.split] }

/-- Any number of people split keys, pass the files on, keep them, give them back and collect
them, in any order. -/
def recovery [DecidableEq Pub] : Machine (World Person Priv Pub) (Event Person Priv Pub) where
  start world := world.files = [] ∧ world.splits = [] ∧
    ∀ person, (world.desk person).heldShares = .empty ∧ (world.desk person).entries = []
  enabled world
    | .split _ request => request.split.key.length = 32 ∧ request.selectedNames.Nodup
    | .importHeld _ file | .importFile _ file => file ∈ world.files ∨ file.origin = none
    | _ => True
  apply world
    | .split person request => applySplit L world person request
    | .importHeld person file =>
        world.withDesk person (importHeldShare L (world.desk person) file)
    | .exportBack person id seed proceed =>
        { world with
          files := world.files ++ (exportBack L (world.desk person) id seed proceed).toList }
    | .deleteSelected person ids =>
        world.withDesk person { world.desk person with
          heldShares := ids.foldl Dict.erase (world.desk person).heldShares }
    | .openTab person => world.withDesk person (openedTab (world.desk person))
    | .addShare person =>
        world.withDesk person { world.desk person with
          entries := (world.desk person).entries ++
            [⟨(world.desk person).entries.length + 1, "", none⟩] }
    | .removeLast person =>
        world.withDesk person { world.desk person with
          entries := (world.desk person).entries.dropLast }
    | .editRow person row idxVar entry =>
        world.withDesk person { world.desk person with
          entries := (world.desk person).entries.set row ⟨idxVar, entry, none⟩ }
    | .importFile person file =>
        world.withDesk person (importShareFile L (world.desk person) file)
    | .setFriends person friends =>
        world.withDesk person { world.desk person with friends := friends }
    | .setKey person priv => world.withDesk person { world.desk person with myPriv := priv }

end Runs

section Shares

variable {Priv Pub : Type} {L : MessageLibrary Priv Pub} {splits : List Split}

/-- What `split_secret` accepts of a key of 32 bytes. -/
structure Split.Sound (split : Split) : Prop where
  size : split.key.length = aesKeySize
  two : 2 ≤ split.threshold
  few : split.numShares ≤ 10

/-- The number and the bytes are those of this share. -/
def IsShare (splits : List Split) (origin : Origin) (shareIndex : Int) (bytes : Bytes) : Prop :=
  ∃ split, splits[origin.split]? = some split ∧ split.Sound ∧
    origin.position < split.numShares ∧
    (shareIndex, bytes) = Shamir.share split.key split.draws origin.position

/-- The text in a table or in the recover tab is that of this share. -/
def IsOpenShare (splits : List Split) (origin : Origin) (shareIndex : Int) (text : String) :
    Prop :=
  ∃ bytes, IsShare splits origin shareIndex bytes ∧ text = b64encode bytes

/-- The file carries its share for the owner of the key it is sealed for. -/
def IsSealedShare (L : MessageLibrary Priv Pub) (splits : List Split) (file : ShareFile Pub) :
    Prop :=
  ∀ origin pub, file.origin = some origin → file.sealedFor = some pub →
    ∃ bytes seed, IsShare splits origin file.shareIndex bytes ∧
      file.encryptedShareB64 = b64encode (L.rsaEncrypt pub bytes seed)

theorem IsShare.length {origin : Origin} {shareIndex : Int} {bytes : Bytes}
    (share : IsShare splits origin shareIndex bytes) : bytes.length = aesKeySize := by
  obtain ⟨split, _, sound, _, same⟩ := share
  have made : bytes = Shamir.shareBytes split.key split.draws origin.position :=
    congrArg Prod.snd same
  rw [made, Shamir.shareBytes, List.length_ofFn]
  exact sound.size

theorem IsShare.append {origin : Origin} {shareIndex : Int} {bytes : Bytes}
    (share : IsShare splits origin shareIndex bytes) (more : List Split) :
    IsShare (splits ++ more) origin shareIndex bytes := by
  obtain ⟨split, found, rest⟩ := share
  refine ⟨split, ?_, rest⟩
  have inside : origin.split < splits.length := (List.getElem?_eq_some_iff.mp found).1
  rw [List.getElem?_append_left inside]
  exact found

theorem IsOpenShare.append {origin : Origin} {shareIndex : Int} {text : String}
    (share : IsOpenShare splits origin shareIndex text) (more : List Split) :
    IsOpenShare (splits ++ more) origin shareIndex text := by
  obtain ⟨bytes, share, written⟩ := share
  exact ⟨bytes, share.append more, written⟩

theorem IsSealedShare.append {file : ShareFile Pub} (share : IsSealedShare L splits file)
    (more : List Split) : IsSealedShare L (splits ++ more) file := by
  intro origin pub known sealedFor
  obtain ⟨bytes, seed, share, written⟩ := share origin pub known sealedFor
  exact ⟨bytes, seed, share.append more, written⟩

theorem openShare_eq_some {desk : Desk Priv Pub} {file : ShareFile Pub} {plain : Bytes} :
    openShare L desk file = some plain ↔ file.encryptedShareB64 ≠ "" ∧
      ∃ encrypted, b64decode file.encryptedShareB64 = .ok encrypted ∧
        decryptShare L desk encrypted = some plain := by
  unfold openShare
  by_cases empty : file.encryptedShareB64 = ""
  · simp [empty]
  · rw [if_neg empty]
    cases b64decode file.encryptedShareB64 <;> simp [Except.toOption, empty]

/-- Whoever the file is sealed for reads the share out of it. -/
theorem IsSealedShare.read [DecidableEq Pub] (lawful : L.Lawful) {file : ShareFile Pub}
    (share : IsSealedShare L splits file) {desk : Desk Priv Pub} {plain : Bytes}
    (opened : openShare L desk file = some plain) {origin : Origin}
    (known : readOrigin L desk file = some origin) :
    IsShare splits origin file.shareIndex plain := by
  unfold readOrigin at known
  split at known
  · rename_i own
    cases present : desk.myPriv with
    | none =>
        obtain ⟨_, encrypted, _, decrypted⟩ := openShare_eq_some.mp opened
        rw [decryptShare, present] at decrypted
        cases decrypted
    | some priv =>
        rw [present] at own
        obtain ⟨bytes, seed, share, written⟩ := share origin (L.publicKey priv) known own
        obtain ⟨_, encrypted, decoded, decrypted⟩ := openShare_eq_some.mp opened
        rw [written, b64decode_b64encode] at decoded
        cases decoded
        rw [decryptShare, present, Option.bind_some, lawful.rsa_opens priv seed share.length]
          at decrypted
        cases decrypted
        exact share
  · cases known

/-- The loop writes a file for each share, and only to the table of the shares given away. -/
theorem saveShares_run (request : Splitting) (number idx : Nat) (shares : List (Int × Bytes))
    (desk : Desk Priv Pub) :
    (∃ table, ((saveShares L request number idx shares).run desk).2 =
      { desk with recoveryShares := table }) ∧
    ∀ files, ((saveShares L request number idx shares).run desk).1 = .ok files →
      ∀ file ∈ files, ∃ place share pub, shares[place]? = some share ∧
        file.origin = some ⟨number, idx + place⟩ ∧ file.shareIndex = share.1 ∧
        file.sealedFor = some pub ∧
        file.encryptedShareB64 =
          b64encode (L.rsaEncrypt pub share.2 (request.seeds share.1)) := by
  induction shares generalizing idx desk with
  | nil =>
      refine ⟨⟨desk.recoveryShares, rfl⟩, ?_⟩
      intro files returned file member
      cases returned
      cases member
  | cons share rest ih =>
      rw [saveShares, Call.run_read_bind]
      dsimp only
      cases getFriendRsaPub desk
          (request.selectedNames.getD idx ("Share " ++ toString share.1)) with
      | none =>
          refine ⟨⟨desk.recoveryShares, rfl⟩, ?_⟩
          intro files returned
          cases returned
      | some pub =>
          dsimp only
          split
          · refine ⟨⟨desk.recoveryShares, rfl⟩, ?_⟩
            intro files returned
            cases returned
          · rw [Call.run_modify_bind, Call.run_bind]
            obtain ⟨⟨table, left⟩, written⟩ := ih (idx + 1) { desk with
              recoveryShares := desk.recoveryShares.set
                (sharePayload L desk request number idx share
                  (request.selectedNames.getD idx ("Share " ++ toString share.1)) pub).shareId
                (sharePayload L desk request number idx share
                  (request.selectedNames.getD idx ("Share " ++ toString share.1)) pub) }
            split
            · rename_i others after ran
              rw [ran] at left written
              refine ⟨⟨table, left⟩, ?_⟩
              intro files returned file member
              cases returned
              rcases List.mem_cons.mp member with first | later
              · rw [first]
                exact ⟨0, share, pub, rfl, rfl, rfl, rfl, rfl⟩
              · obtain ⟨place, other, key, found, origin, rest_of⟩ :=
                  written others rfl file later
                refine ⟨place + 1, other, key, found, ?_, rest_of⟩
                rw [origin, Nat.add_assoc, Nat.add_comm 1 place]
            · rename_i raised after ran
              rw [ran] at left
              refine ⟨⟨table, left⟩, ?_⟩
              intro files returned
              cases returned

theorem doSplit_run (request : Splitting) (number : Nat) (desk : Desk Priv Pub) :
    (∃ table, ((doSplit L request number).run desk).2 = { desk with recoveryShares := table }) ∧
    ∀ files, ((doSplit L request number).run desk).1 = .ok files →
      ∃ shares, Shamir.splitSecret request.split.key request.split.numShares
          request.split.threshold request.split.draws = .ok shares ∧
        ((saveShares L request number 0 shares).run desk).1 = .ok files := by
  have idle : ∃ table, desk = { desk with recoveryShares := table } := ⟨desk.recoveryShares, rfl⟩
  rw [doSplit, Call.run_read_bind]
  dsimp only
  split
  · exact ⟨idle, fun files returned => absurd returned (by simp)⟩
  split
  · exact ⟨idle, fun files returned => absurd returned (by simp)⟩
  split
  · exact ⟨idle, fun files returned => absurd returned (by simp)⟩
  split
  · exact ⟨idle, fun files returned => absurd returned (by simp)⟩
  cases made : Shamir.splitSecret request.split.key request.split.numShares
      request.split.threshold request.split.draws with
  | error raised => exact ⟨idle, fun files returned => by cases returned⟩
  | ok shares =>
      refine ⟨(saveShares_run request number 0 shares desk).1, ?_⟩
      intro files returned
      exact ⟨shares, rfl, returned⟩

/-- Every file of a split carries one of its shares. -/
theorem doSplit_sealed {request : Splitting} (size : request.split.key.length = aesKeySize)
    {desk : Desk Priv Pub} {files : List (ShareFile Pub)}
    (returned : ((doSplit L request splits.length).run desk).1 = .ok files) :
    ∀ file ∈ files, IsSealedShare L (splits ++ [request.split]) file := by
  intro file member origin pub known sealedFor
  obtain ⟨shares, made, saved⟩ := (doSplit_run request splits.length desk).2 files returned
  obtain ⟨nonempty, two, enough, few⟩ := Shamir.accepts_of_ok made
  have listed := Shamir.splitSecret_ok nonempty two enough few request.split.draws
  rw [made] at listed
  obtain ⟨place, share, key, found, from_split, index, sealed, written⟩ :=
    (saveShares_run request splits.length 0 shares desk).2 files saved file member
  rw [known, Nat.zero_add] at from_split
  cases from_split
  rw [sealedFor] at sealed
  cases sealed
  rw [Except.ok.inj listed, List.getElem?_map] at found
  obtain ⟨position, inside, same⟩ := Option.map_eq_some_iff.mp found
  obtain ⟨bounded, equal⟩ := List.getElem?_eq_some_iff.mp inside
  rw [List.getElem_range] at equal
  rw [List.length_range] at bounded
  refine ⟨share.2, _, ⟨request.split, ?_, ⟨size, two, few⟩, bounded, ?_⟩, written⟩
  · exact List.getElem?_concat_length
  · rw [index, ← same, ← equal]

end Shares

section Invariant

variable {Person Priv Pub : Type} [DecidableEq Person]
variable {L : MessageLibrary Priv Pub} {world : World Person Priv Pub}

/-- The tables and the recover tab of one desk hold what they say. -/
structure GenuineDesk (splits : List Split) (desk : Desk Priv Pub) : Prop where
  held : ∀ id row origin, desk.heldShares.get? id = some row → row.origin = some origin →
    IsOpenShare splits origin row.shareIndex row.plaintextShareB64
  entries : ∀ row ∈ desk.entries, ∀ origin, row.origin = some origin →
    IsOpenShare splits origin row.idxVar row.entry

structure Genuine (L : MessageLibrary Priv Pub) (world : World Person Priv Pub) : Prop where
  files : ∀ file ∈ world.files, IsSealedShare L world.splits file
  desks : ∀ person, GenuineDesk world.splits (world.desk person)

theorem GenuineDesk.congr {splits : List Split} {desk after : Desk Priv Pub}
    (genuine : GenuineDesk splits desk) (held : after.heldShares = desk.heldShares)
    (entries : after.entries = desk.entries) : GenuineDesk splits after := by
  constructor
  · rw [held]
    exact genuine.held
  · rw [entries]
    exact genuine.entries

theorem GenuineDesk.append {splits : List Split} {desk : Desk Priv Pub}
    (genuine : GenuineDesk splits desk) (more : List Split) :
    GenuineDesk (splits ++ more) desk := by
  constructor
  · intro id row origin found known
    exact (genuine.held id row origin found known).append more
  · intro row member origin known
    exact (genuine.entries row member origin known).append more

/-- Rows may go, and rows of which nothing is known may come. -/
theorem GenuineDesk.withEntries {splits : List Split} {desk : Desk Priv Pub}
    (genuine : GenuineDesk splits desk) {entries : List EntryRow}
    (from_desk : ∀ row ∈ entries, row ∈ desk.entries ∨ row.origin = none) :
    GenuineDesk splits { desk with entries := entries } := by
  refine ⟨genuine.held, ?_⟩
  intro row member origin known
  rcases from_desk row member with old | unknown
  · exact genuine.entries row old origin known
  · rw [unknown] at known
    cases known

theorem GenuineDesk.deleted {splits : List Split} {desk : Desk Priv Pub}
    (genuine : GenuineDesk splits desk) (ids : List String) :
    GenuineDesk splits { desk with heldShares := ids.foldl Dict.erase desk.heldShares } := by
  refine ⟨?_, genuine.entries⟩
  have left : ∀ (table : Dict String HeldRow) id row,
      (ids.foldl Dict.erase table).get? id = some row → table.get? id = some row := by
    induction ids with
    | nil => exact fun table id row found => found
    | cons first rest ih =>
        intro table id row found
        have before := ih (table.erase first) id row found
        rw [Dict.get?_erase] at before
        split at before
        · cases before
        · exact before
  intro id row origin found known
  exact genuine.held id row origin (left _ id row found) known

theorem GenuineDesk.importHeld [DecidableEq Pub] (lawful : L.Lawful) {splits : List Split}
    {desk : Desk Priv Pub} (genuine : GenuineDesk splits desk) {file : ShareFile Pub}
    (share : IsSealedShare L splits file) : GenuineDesk splits (importHeldShare L desk file) := by
  unfold importHeldShare
  split
  · exact genuine
  · rename_i plain opened
    refine ⟨?_, genuine.entries⟩
    intro id row origin found known
    rw [Dict.get?_set] at found
    split at found
    · cases found
      exact ⟨plain, share.read lawful opened known, rfl⟩
    · exact genuine.held id row origin found known

theorem GenuineDesk.importFile [DecidableEq Pub] (lawful : L.Lawful) {splits : List Split}
    {desk : Desk Priv Pub} (genuine : GenuineDesk splits desk) {file : ShareFile Pub}
    (share : IsSealedShare L splits file) : GenuineDesk splits (importShareFile L desk file) := by
  unfold importShareFile
  split
  · exact genuine
  · rename_i plain opened
    refine ⟨genuine.held, ?_⟩
    intro row member origin known
    rcases List.mem_append.mp member with old | last
    · exact genuine.entries row old origin known
    · rw [List.mem_singleton] at last
      rw [last] at known ⊢
      exact ⟨plain, share.read lawful opened known, rfl⟩

theorem exportBack_sealed {splits : List Split} {desk : Desk Priv Pub}
    (genuine : GenuineDesk splits desk) {id : String} {seed : Bytes} {proceed : Bool} :
    ∀ file ∈ (exportBack L desk id seed proceed).toList, IsSealedShare L splits file := by
  intro file member origin pub known sealedFor
  rw [Option.mem_toList] at member
  unfold exportBack at member
  split at member
  · cases member
  · rename_i row found
    dsimp only at member
    split at member
    · cases member
    · rename_i plain decoded
      split at member
      · rename_i key listed
        cases member
        obtain ⟨bytes, share, written⟩ := genuine.held id row origin found known
        rw [written, b64decode_b64encode] at decoded
        cases decoded
        cases sealedFor
        exact ⟨plain, seed, share, rfl⟩
      · split at member
        · cases member
          cases known
        · cases member

omit [DecidableEq Person] in
/-- A file that no split or export wrote carries nothing that is known. -/
theorem Genuine.importable (genuine : Genuine L world) {file : ShareFile Pub}
    (enabled : file ∈ world.files ∨ file.origin = none) : IsSealedShare L world.splits file := by
  rcases enabled with written | foreign
  · exact genuine.files file written
  · intro origin pub known _
    rw [foreign] at known
    cases known

theorem Genuine.withDesk (genuine : Genuine L world) {person : Person} {after : Desk Priv Pub}
    (desk : GenuineDesk world.splits after) : Genuine L (world.withDesk person after) := by
  refine ⟨genuine.files, fun other => ?_⟩
  by_cases same : other = person
  · rw [same, World.withDesk_self]
    exact desk
  · rw [World.withDesk_of_ne _ _ same]
    exact genuine.desks other

theorem Genuine.split (genuine : Genuine L world) (person : Person) {request : Splitting}
    (size : request.split.key.length = aesKeySize) :
    Genuine L (applySplit L world person request) := by
  obtain ⟨⟨table, left⟩, _⟩ := doSplit_run (L := L) request world.splits.length
    (world.desk person)
  constructor
  · intro file member
    rcases List.mem_append.mp member with old | new
    · exact (genuine.files file old).append [request.split]
    · cases made : ((doSplit L request world.splits.length).run (world.desk person)).1 with
      | error raised =>
          rw [made] at new
          cases new
      | ok files =>
          rw [made] at new
          exact doSplit_sealed size made file new
  · intro other
    show GenuineDesk (world.splits ++ [request.split])
      ((world.withDesk person ((doSplit L request world.splits.length).run
        (world.desk person)).2).desk other)
    by_cases same : other = person
    · rw [same, World.withDesk_self, left]
      exact ((genuine.desks person).append [request.split]).congr rfl rfl
    · rw [World.withDesk_of_ne _ _ same]
      exact (genuine.desks other).append [request.split]

theorem genuine_of_reachable [DecidableEq Pub] (lawful : L.Lawful)
    (reachable : (recovery L).Reachable (fun _ _ => True) world) : Genuine L world := by
  refine Machine.Reachable.invariant _ (Genuine L) ?_ ?_ reachable
  · intro start initial
    obtain ⟨files, splits, desks⟩ := initial
    refine ⟨fun file member => ?_, fun person => ⟨?_, ?_⟩⟩
    · rw [files] at member
      cases member
    · intro id row origin found
      rw [(desks person).1] at found
      cases found
    · intro row member
      rw [(desks person).2] at member
      cases member
  · intro before event _ genuine enabled _
    cases event with
    | split person request => exact genuine.split person enabled.1
    | importHeld person file =>
        exact genuine.withDesk ((genuine.desks person).importHeld lawful
          (genuine.importable enabled))
    | importFile person file =>
        exact genuine.withDesk ((genuine.desks person).importFile lawful
          (genuine.importable enabled))
    | exportBack person id seed proceed =>
        refine ⟨fun file member => ?_, genuine.desks⟩
        rcases List.mem_append.mp member with old | new
        · exact genuine.files file old
        · exact exportBack_sealed (genuine.desks person) file new
    | deleteSelected person ids => exact genuine.withDesk ((genuine.desks person).deleted ids)
    | openTab person =>
        apply genuine.withDesk
        apply (genuine.desks person).withEntries
        intro row member
        simp only [List.mem_cons, List.not_mem_nil, or_false] at member
        rcases member with first | second | third
        · exact Or.inr (by rw [first])
        · exact Or.inr (by rw [second])
        · exact Or.inr (by rw [third])
    | addShare person =>
        apply genuine.withDesk
        apply (genuine.desks person).withEntries
        intro row member
        rcases List.mem_append.mp member with old | new
        · exact Or.inl old
        · rw [List.mem_singleton] at new
          exact Or.inr (by rw [new])
    | removeLast person =>
        apply genuine.withDesk
        apply (genuine.desks person).withEntries
        intro row member
        exact Or.inl (List.mem_of_mem_dropLast member)
    | editRow person row idxVar entry =>
        apply genuine.withDesk
        apply (genuine.desks person).withEntries
        intro other member
        rcases List.mem_or_eq_of_mem_set member with old | new
        · exact Or.inl old
        · exact Or.inr (by rw [new])
    | setFriends person friends =>
        exact genuine.withDesk ((genuine.desks person).congr rfl rfl)
    | setKey person priv => exact genuine.withDesk ((genuine.desks person).congr rfl rfl)

end Invariant

section Reconstruction

open Base64

theorem isSpace_letter {value : Nat} (small : value < 64) : isSpace (letter value) = false := by
  have all : ∀ index : Fin 64, isSpace (letter index.val) = false := by decide +kernel
  exact all ⟨value, small⟩

theorem isSpace_encodeChars (bytes : Bytes) :
    ∀ character ∈ encodeChars bytes, isSpace character = false := by
  induction bytes using encodeChars.induct with
  | case1 =>
      intro character member
      cases member
  | case2 first =>
      have high := first.toNat_lt
      simp only [encodeChars, List.forall_mem_cons]
      refine ⟨isSpace_letter (by omega), isSpace_letter (by omega), by decide, by decide, ?_⟩
      intro character member
      cases member
  | case3 first second =>
      have high := first.toNat_lt
      have low := second.toNat_lt
      simp only [encodeChars, List.forall_mem_cons]
      refine ⟨isSpace_letter (by omega), isSpace_letter (by omega), isSpace_letter (by omega),
        by decide, ?_⟩
      intro character member
      cases member
  | case4 first second third rest ih =>
      have high := first.toNat_lt
      have middle := second.toNat_lt
      have low := third.toNat_lt
      simp only [encodeChars, List.forall_mem_cons]
      exact ⟨isSpace_letter (by omega), isSpace_letter (by omega), isSpace_letter (by omega),
        isSpace_letter (by omega), ih⟩

theorem strip_b64encode (bytes : Bytes) : strip (b64encode bytes) = b64encode bytes := by
  apply String.toList_injective
  apply toList_strip
  rw [b64encode, String.toList_ofList]
  exact isSpace_encodeChars bytes

theorem b64encode_ne_empty {bytes : Bytes} (filled : bytes ≠ []) : b64encode bytes ≠ "" := by
  intro empty
  have decoded := b64decode_b64encode bytes
  rw [empty] at decoded
  cases decoded
  exact filled rfl

variable {splits : List Split} {split : Split} {number : Nat}

theorem IsShare.of_split (found : splits[number]? = some split) {position : Nat}
    {shareIndex : Int} {bytes : Bytes}
    (share : IsShare splits ⟨number, position⟩ shareIndex bytes) :
    split.Sound ∧ position < split.numShares ∧
      (shareIndex, bytes) = Shamir.share split.key split.draws position := by
  obtain ⟨other, same, sound, inside, equal⟩ := share
  rw [found] at same
  cases same
  exact ⟨sound, inside, equal⟩

/-- The filled rows of the recover tab are the shares at these positions of the split. -/
def Collected (number : Nat) (rows : List EntryRow) (positions : List Nat) : Prop :=
  (rows.filter fun row => strip row.entry ≠ "").map EntryRow.origin =
    positions.map fun position => some ⟨number, position⟩

theorem collected_cons {row : EntryRow} {rows : List EntryRow} {positions : List Nat}
    (collected : Collected number (row :: rows) positions) :
    (strip row.entry = "" ∧ Collected number rows positions) ∨
    ∃ position others, strip row.entry ≠ "" ∧ positions = position :: others ∧
      row.origin = some ⟨number, position⟩ ∧ Collected number rows others := by
  unfold Collected at collected ⊢
  by_cases blank : strip row.entry = ""
  · left
    rw [List.filter_cons_of_neg (by simp [blank])] at collected
    exact ⟨blank, collected⟩
  · right
    rw [List.filter_cons_of_pos (by simp [blank]), List.map_cons] at collected
    cases positions with
    | nil => cases collected
    | cons position others =>
        rw [List.map_cons] at collected
        injection collected with first rest
        exact ⟨position, others, blank, rfl, first, rest⟩

theorem parseShares_rawShares (found : splits[number]? = some split) {rows : List EntryRow}
    {positions : List Nat} (collected : Collected number rows positions)
    (genuine : ∀ row ∈ rows, ∀ origin, row.origin = some origin →
      IsOpenShare splits origin row.idxVar row.entry) :
    RecoveryUnlock.parseShares (rawShares rows) =
        .ok (positions.map (Shamir.share split.key split.draws)) ∧
      (rawShares rows).length = positions.length ∧
      ∀ position ∈ positions, split.Sound ∧ position < split.numShares := by
  induction rows generalizing positions with
  | nil =>
      cases positions with
      | nil => exact ⟨rfl, rfl, fun position member => by cases member⟩
      | cons position others => cases collected
  | cons row rows ih =>
      have later : ∀ other ∈ rows, ∀ origin, other.origin = some origin →
          IsOpenShare splits origin other.idxVar other.entry := fun other member =>
        genuine other (List.mem_cons_of_mem row member)
      rcases collected_cons collected with
        ⟨blank, rest⟩ | ⟨position, others, filled, rfl, known, rest⟩
      · rw [rawShares, List.filterMap_cons_none (by rw [if_pos blank])]
        exact ih rest later
      · obtain ⟨parsed, counted, inside⟩ := ih rest later
        obtain ⟨bytes, share, written⟩ := genuine row List.mem_cons_self _ known
        obtain ⟨sound, small, equal⟩ := share.of_split found
        rw [rawShares, List.filterMap_cons_some (by rw [if_neg filled])]
        change RecoveryUnlock.parseShares ((row.idxVar, strip row.entry) :: rawShares rows) = _ ∧
          (rawShares rows).length + 1 = others.length + 1 ∧ _
        refine ⟨?_, by rw [counted], ?_⟩
        · rw [RecoveryUnlock.parseShares, written, strip_b64encode, RecoveryUnlock.decodeShare,
            b64decode_b64encode, parsed, List.map_cons, ← equal]
          rfl
        · intro other member
          rcases List.mem_cons.mp member with same | member
          · rw [same]
            exact ⟨sound, small⟩
          · exact inside other member

/-- Shares of one split in the recover tab, enough of them and none of them twice, give its key. -/
theorem doReconstruct_collected (found : splits[number]? = some split)
    (positive : 0 < split.threshold) {rows : List EntryRow} {positions : List Nat}
    (collected : Collected number rows positions)
    (genuine : ∀ row ∈ rows, ∀ origin, row.origin = some origin →
      IsOpenShare splits origin row.idxVar row.entry)
    (distinct : positions.Nodup) (enough : split.threshold ≤ positions.length) :
    doReconstruct rows = .ok split.key := by
  obtain ⟨parsed, counted, inside⟩ := parseShares_rawShares found collected genuine
  obtain ⟨first, others, rfl⟩ : ∃ first others, positions = first :: others :=
    List.exists_cons_of_length_pos (by omega)
  obtain ⟨sound, _⟩ := inside first List.mem_cons_self
  have size : ∀ share ∈ (first :: others).map (Shamir.share split.key split.draws),
      share.2.length = split.key.length := by
    intro share member
    obtain ⟨position, _, rfl⟩ := List.mem_map.mp member
    exact List.length_ofFn
  have lengths : (((first :: others).map (Shamir.share split.key split.draws)).map
      fun share => share.2.length).dedup = [split.key.length] := by
    rw [List.map_congr_left size, List.map_const', List.replicate_dedup (by simp)]
  have expected : RecoveryUnlock.expectedLen
      ((first :: others).map (Shamir.share split.key split.draws)) = split.key.length :=
    size _ List.mem_cons_self
  have rebuilt := Shamir.reconstruct_positions sound.two split.draws distinct
    (fun position member => by
      have small := (inside position member).2
      have few := sound.few
      omega) enough
  have two := sound.two
  unfold doReconstruct
  rw [if_neg (by omega), parsed]
  dsimp only
  rw [lengths, if_neg (by simp), expected, rebuilt]
  rfl

end Reconstruction

section Collection

variable {Person Priv Pub : Type} [DecidableEq Person]

/-- Whose table a share is in, under which id, and which share of the split it is. -/
structure Holding (Person : Type) where
  holder : Person
  shareId : String
  position : Nat

/-- The holder exports the share back, and the owner imports the file. -/
def giveBack (owner : Person) (seeds : Holding Person → Bytes) (holding : Holding Person) :
    List (World Person Priv Pub → Event Person Priv Pub) :=
  [fun _ => .exportBack holding.holder holding.shareId (seeds holding) false,
    fun world => .importFile owner (world.files.getLastD default)]

/-- The owner opens the recover tab, and the holders give their shares back one by one. -/
def collect (owner : Person) (seeds : Holding Person → Bytes) (holdings : List (Holding Person)) :
    List (World Person Priv Pub → Event Person Priv Pub) :=
  (fun _ => .openTab owner) :: holdings.flatMap (giveBack owner seeds)

/-- The share is in the holder's table. -/
def Holds (number : Nat) (world : World Person Priv Pub) (holding : Holding Person) : Prop :=
  ∃ row, (world.desk holding.holder).heldShares.get? holding.shareId = some row ∧
    row.origin = some ⟨number, holding.position⟩

/-- What nobody does with the shares that are kept: delete one, or import another file under its
id. -/
def Spares (holdings : List (Holding Person)) (_ : World Person Priv Pub) :
    Event Person Priv Pub → Prop
  | .deleteSelected person ids =>
      ∀ holding ∈ holdings, holding.holder = person → holding.shareId ∉ ids
  | .importHeld person file =>
      ∀ holding ∈ holdings, holding.holder = person → holding.shareId ≠ file.shareId
  | _ => True

/-- The holder has the share, and lists the owner under the name that the split wrote. -/
def Ready (number : Nat) (ownerPub : Pub) (world : World Person Priv Pub)
    (holding : Holding Person) : Prop :=
  ∃ row, (world.desk holding.holder).heldShares.get? holding.shareId = some row ∧
    row.origin = some ⟨number, holding.position⟩ ∧
    getFriendRsaPub (world.desk holding.holder) row.ownerName = some ownerPub

/-- Nothing but the files and the owner's recover tab is another. -/
structure Collecting (owner : Person) (before after : World Person Priv Pub)
    (entries : List EntryRow) : Prop where
  desks : after.desk = Function.update before.desk owner
    { before.desk owner with entries := entries }
  splits : after.splits = before.splits

variable {world : World Person Priv Pub} {number : Nat}

theorem Holds.withDesk {person : Person} {after : Desk Priv Pub} {holding : Holding Person}
    (holds : Holds number world holding)
    (same : holding.holder = person → after.heldShares.get? holding.shareId =
      (world.desk person).heldShares.get? holding.shareId) :
    Holds number (world.withDesk person after) holding := by
  obtain ⟨row, found, known⟩ := holds
  refine ⟨row, ?_, known⟩
  by_cases own : holding.holder = person
  · rw [own, World.withDesk_self, same own, ← own]
    exact found
  · rw [World.withDesk_of_ne _ _ own]
    exact found

theorem get?_foldl_erase {table : Dict String HeldRow} {ids : List String} {id : String}
    (kept : id ∉ ids) : (ids.foldl Dict.erase table).get? id = table.get? id := by
  induction ids generalizing table with
  | nil => rfl
  | cons first rest ih =>
      rw [List.mem_cons, not_or] at kept
      rw [List.foldl_cons, ih kept.2, Dict.get?_erase_of_ne _ kept.1]

section Frames

variable {owner : Person} {before middle after : World Person Priv Pub}
variable {entries earlier : List EntryRow}

theorem Collecting.tables (collecting : Collecting owner before after entries) (person : Person) :
    (after.desk person).heldShares = (before.desk person).heldShares ∧
      (after.desk person).friends = (before.desk person).friends ∧
      (after.desk person).myPriv = (before.desk person).myPriv := by
  rw [collecting.desks]
  by_cases own : person = owner
  · rw [own, Function.update_self]
    exact ⟨rfl, rfl, rfl⟩
  · rw [Function.update_of_ne own]
    exact ⟨rfl, rfl, rfl⟩

theorem Collecting.entries_eq (collecting : Collecting owner before after entries) :
    (after.desk owner).entries = entries := by
  rw [collecting.desks, Function.update_self]

theorem Collecting.ready (collecting : Collecting owner before after entries) {ownerPub : Pub}
    {holding : Holding Person} (ready : Ready number ownerPub before holding) :
    Ready number ownerPub after holding := by
  obtain ⟨row, found, known, listed⟩ := ready
  obtain ⟨tables, friends, _⟩ := collecting.tables holding.holder
  refine ⟨row, ?_, known, ?_⟩
  · rw [tables, found]
  · rw [getFriendRsaPub, friends]
    exact listed

theorem Collecting.trans (first : Collecting owner before middle earlier)
    (second : Collecting owner middle after entries) : Collecting owner before after entries := by
  refine ⟨?_, second.splits.trans first.splits⟩
  rw [second.desks, first.desks, Function.update_self, Function.update_idem]

end Frames

variable {L : MessageLibrary Priv Pub} [DecidableEq Pub]

/-- What spares a share leaves it where it is. -/
theorem Holds.step {holdings : List (Holding Person)} {event : Event Person Priv Pub}
    (spares : Spares holdings world event) {holding : Holding Person}
    (member : holding ∈ holdings) (holds : Holds number world holding) :
    Holds number ((recovery L).apply world event) holding := by
  cases event with
  | split person request =>
      obtain ⟨⟨table, left⟩, _⟩ := doSplit_run (L := L) request world.splits.length
        (world.desk person)
      have kept : Holds number (world.withDesk person ((doSplit L request
          world.splits.length).run (world.desk person)).2) holding := by
        apply holds.withDesk
        intro _
        rw [left]
      exact kept
  | importHeld person file =>
      apply holds.withDesk
      intro own
      unfold importHeldShare
      split
      · rfl
      · exact Dict.get?_set_of_ne _ _ (spares holding member own)
  | exportBack person id seed proceed => exact holds
  | deleteSelected person ids =>
      apply holds.withDesk
      intro own
      exact get?_foldl_erase (spares holding member own)
  | openTab person => exact holds.withDesk fun _ => rfl
  | addShare person => exact holds.withDesk fun _ => rfl
  | removeLast person => exact holds.withDesk fun _ => rfl
  | editRow person row idxVar entry => exact holds.withDesk fun _ => rfl
  | importFile person file =>
      apply holds.withDesk
      intro _
      unfold importShareFile
      split <;> rfl
  | setFriends person friends => exact holds.withDesk fun _ => rfl
  | setKey person priv => exact holds.withDesk fun _ => rfl

/-- The splits that were made stay the ones they are. -/
theorem splits_step {event : Event Person Priv Pub} {split : Split}
    (found : world.splits[number]? = some split) :
    ((recovery L).apply world event).splits[number]? = some split := by
  cases event with
  | split person request =>
      obtain ⟨inside, _⟩ := List.getElem?_eq_some_iff.mp found
      exact (List.getElem?_append_left inside).trans found
  | _ => exact found

/-- One share comes back: a row with the share is added to the recover tab. -/
theorem giveBack_run (lawful : L.Lawful) (genuine : Genuine L world)
    (sealed_nonempty : ∀ pub (message seed : Bytes), message.length = aesKeySize →
      L.rsaEncrypt pub message seed ≠ [])
    {owner : Person} {priv : Priv} (key : (world.desk owner).myPriv = some priv)
    {holding : Holding Person} (ready : Ready number (L.publicKey priv) world holding)
    (seeds : Holding Person → Bytes) :
    (recovery L).Admits (fun _ _ => True) world (giveBack owner seeds holding) ∧
      ∃ row : EntryRow, row.origin = some ⟨number, holding.position⟩ ∧ strip row.entry ≠ "" ∧
        Collecting owner world ((recovery L).run world (giveBack owner seeds holding))
          ((world.desk owner).entries ++ [row]) := by
  obtain ⟨held, found, known, listed⟩ := ready
  obtain ⟨bytes, share, written⟩ := (genuine.desks holding.holder).held _ _ _ found known
  let file : ShareFile Pub :=
    { shareId := holding.shareId
      ownerName := held.ownerName
      holderName := held.holderName
      shareIndex := held.shareIndex
      totalShares := held.totalShares
      threshold := held.threshold
      encryptedShareB64 := b64encode (L.rsaEncrypt (L.publicKey priv) bytes (seeds holding))
      sealedFor := some (L.publicKey priv)
      origin := held.origin }
  have exported : exportBack L (world.desk holding.holder) holding.shareId (seeds holding) false =
      some file := by
    unfold exportBack
    rw [found]
    dsimp only
    rw [written, b64decode_b64encode]
    dsimp only
    rw [listed]
  have sent : (recovery L).apply world (.exportBack holding.holder holding.shareId
      (seeds holding) false) = { world with files := world.files ++ [file] } := by
    show { world with files := world.files ++ (exportBack L (world.desk holding.holder)
      holding.shareId (seeds holding) false).toList } = _
    rw [exported, Option.toList_some]
  have last : (world.files ++ [file]).getLastD default = file := List.getLastD_concat
  have opened : openShare L (world.desk owner) file = some bytes := by
    rw [openShare_eq_some]
    refine ⟨b64encode_ne_empty (sealed_nonempty _ _ _ share.length), _, b64decode_b64encode _, ?_⟩
    rw [decryptShare, key, Option.bind_some, lawful.rsa_opens priv _ share.length]
  let row : EntryRow := ⟨held.shareIndex, b64encode bytes, held.origin⟩
  have imported : importShareFile L (world.desk owner) file =
      { world.desk owner with entries := (world.desk owner).entries ++ [row] } := by
    have own : readOrigin L (world.desk owner) file = held.origin := by
      rw [readOrigin, key]
      exact if_pos rfl
    unfold importShareFile
    rw [opened]
    dsimp only
    rw [own]
  have filled : bytes ≠ [] := by
    intro empty
    have size := share.length
    rw [empty] at size
    cases size
  refine ⟨⟨trivial, trivial, ?_, trivial, trivial⟩, row, known, ?_, ?_⟩
  · rw [sent]
    show (world.files ++ [file]).getLastD default ∈ world.files ++ [file] ∨ _
    rw [last]
    exact Or.inl (List.mem_append_right _ (List.mem_singleton_self file))
  · rw [strip_b64encode]
    exact b64encode_ne_empty filled
  · have ran : (recovery L).run world (giveBack owner seeds holding) =
        World.withDesk { world with files := world.files ++ [file] } owner
          { world.desk owner with entries := (world.desk owner).entries ++ [row] } := by
      show (recovery L).apply ((recovery L).apply world (.exportBack holding.holder
        holding.shareId (seeds holding) false)) (.importFile owner (((recovery L).apply world
          (.exportBack holding.holder holding.shareId (seeds holding) false)).files.getLastD
            default)) = _
      rw [sent]
      dsimp only
      rw [last, ← imported]
      rfl
    rw [ran]
    exact ⟨rfl, rfl⟩

/-- The shares come back in the order of the holdings, each in a row of its own. -/
theorem collect_run (lawful : L.Lawful)
    (sealed_nonempty : ∀ pub (message seed : Bytes), message.length = aesKeySize →
      L.rsaEncrypt pub message seed ≠ [])
    (seeds : Holding Person → Bytes) {owner : Person} {priv : Priv}
    (holdings : List (Holding Person))
    (reachable : (recovery L).Reachable (fun _ _ => True) world)
    (key : (world.desk owner).myPriv = some priv)
    (ready : ∀ holding ∈ holdings, Ready number (L.publicKey priv) world holding) :
    (recovery L).Admits (fun _ _ => True) world (holdings.flatMap (giveBack owner seeds)) ∧
      ∃ rows : List EntryRow, (∀ row ∈ rows, strip row.entry ≠ "") ∧
        rows.map EntryRow.origin =
          holdings.map (fun holding => some ⟨number, holding.position⟩) ∧
        Collecting owner world
          ((recovery L).run world (holdings.flatMap (giveBack owner seeds)))
          ((world.desk owner).entries ++ rows) := by
  induction holdings generalizing world with
  | nil =>
      have none : ∀ row ∈ ([] : List EntryRow), strip row.entry ≠ "" := by
        intro row member
        cases member
      refine ⟨trivial, [], none, rfl, ?_, rfl⟩
      show world.desk = _
      rw [List.append_nil, Function.update_eq_self]
  | cons holding rest ih =>
      obtain ⟨admits, row, known, filled, first⟩ := giveBack_run lawful
        (genuine_of_reachable lawful reachable) sealed_nonempty key
        (ready holding List.mem_cons_self) seeds
      obtain ⟨_, _, keys⟩ := first.tables owner
      obtain ⟨later, rows, others, origins, second⟩ := ih (reachable.run admits)
        (by rw [keys, key])
        (fun other member => first.ready (ready other (List.mem_cons_of_mem holding member)))
      rw [first.entries_eq, List.append_assoc] at second
      rw [List.flatMap_cons, Machine.run_append]
      refine ⟨admits.append later, row :: rows, ?_, ?_, first.trans second⟩
      · intro other member
        rcases List.mem_cons.mp member with same | member
        · rw [same]
          exact filled
        · exact others other member
      · rw [List.map_cons, List.map_cons, known, origins]

/-- Shares of one split that as many friends as the threshold keep bring its key back, whatever
else happened meanwhile. -/
theorem shares_bring_key_back (lawful : L.Lawful)
    (sealed_nonempty : ∀ pub (message seed : Bytes), message.length = aesKeySize →
      L.rsaEncrypt pub message seed ≠ [])
    {before after : World Person Priv Pub}
    (reachable : (recovery L).Reachable (fun _ _ => True) before)
    {split : Split} (made : before.splits[number]? = some split) (positive : 0 < split.threshold)
    {holdings : List (Holding Person)} (held : ∀ holding ∈ holdings, Holds number before holding)
    (distinct : (holdings.map Holding.position).Nodup)
    (enough : split.threshold ≤ holdings.length)
    (later : (recovery L).Follows (Spares holdings) before after)
    {owner : Person} {priv : Priv} (key : (after.desk owner).myPriv = some priv)
    (listed : ∀ holding ∈ holdings, ∀ row,
      (after.desk holding.holder).heldShares.get? holding.shareId = some row →
      getFriendRsaPub (after.desk holding.holder) row.ownerName = some (L.publicKey priv))
    (seeds : Holding Person → Bytes) :
    (recovery L).Admits (fun _ _ => True) after (collect owner seeds holdings) ∧
      doReconstruct (((recovery L).run after (collect owner seeds holdings)).desk owner).entries =
        .ok split.key := by
  obtain ⟨kept, still⟩ : (∀ holding ∈ holdings, Holds number after holding) ∧
      after.splits[number]? = some split := by
    refine later.relation
      (fun world => (∀ holding ∈ holdings, Holds number world holding) ∧
        world.splits[number]? = some split) ⟨held, made⟩ ?_
    intro middle event _ holds _ spares
    exact ⟨fun holding member => (holds.1 holding member).step spares member,
      splits_step holds.2⟩
  have reached : (recovery L).Reachable (fun _ _ => True) after :=
    (later.weaken fun _ _ _ => trivial).reachable reachable
  let blank : List EntryRow := [⟨1, "", none⟩, ⟨2, "", none⟩, ⟨3, "", none⟩]
  have tab : Collecting owner after ((recovery L).apply after (.openTab owner)) blank := ⟨rfl, rfl⟩
  have opened : (recovery L).Reachable (fun _ _ => True)
      ((recovery L).apply after (.openTab owner)) := .step _ reached trivial trivial
  have ready : ∀ holding ∈ holdings, Ready number (L.publicKey priv) after holding := by
    intro holding member
    obtain ⟨row, found, known⟩ := kept holding member
    exact ⟨row, found, known, listed holding member row found⟩
  obtain ⟨_, _, keys⟩ := tab.tables owner
  obtain ⟨admits, rows, filled, origins, collecting⟩ := collect_run lawful sealed_nonempty seeds
    holdings opened (by rw [keys, key]) fun holding member => tab.ready (ready holding member)
  have genuine := genuine_of_reachable lawful (opened.run admits)
  rw [tab.entries_eq] at collecting
  have entries : (((recovery L).run after (collect owner seeds holdings)).desk owner).entries =
      blank ++ rows := collecting.entries_eq
  refine ⟨⟨trivial, trivial, admits⟩, ?_⟩
  rw [entries]
  have collected : Collected number (blank ++ rows) (holdings.map Holding.position) := by
    have all : rows.filter (fun row => strip row.entry ≠ "") = rows := by
      apply List.filter_eq_self.mpr
      intro row member
      exact decide_eq_true (filled row member)
    have none : blank.filter (fun row => strip row.entry ≠ "") = [] := by decide
    rw [Collected, List.filter_append, none, List.nil_append, all, origins, List.map_map]
    rfl
  refine doReconstruct_collected still positive collected ?_ distinct
    (by rw [List.length_map]; exact enough)
  have after_entries := (genuine.desks owner).entries
  rw [collecting.entries_eq, collecting.splits] at after_entries
  exact after_entries

def toyDesk (priv : Bytes) (name : String) (friends : List (String × Bytes)) :
    Desk Bytes Bytes where
  myPriv := some priv
  myName := name
  friends := friends
  recoveryShares := .empty
  heldShares := .empty
  entries := []

def toyPeople : World (Fin 3) Bytes Bytes where
  desk
    | 0 => toyDesk [3] "alice" [("bob", [4]), ("carol", [5])]
    | 1 => toyDesk [4] "bob" [("alice", [3])]
    | 2 => toyDesk [5] "carol" [("alice", [3])]
  files := []
  splits := []

def toySplit : Split := ⟨List.replicate 32 0, 2, 2, fun _ _ => UInt8.toFin 0⟩

/-- The owner splits a key, and both friends import what they are sent. -/
def toyKeeping : List (World (Fin 3) Bytes Bytes → Event (Fin 3) Bytes Bytes) :=
  [fun _ => .split 0 ⟨["bob", "carol"], toySplit, fun _ => [], 1⟩,
    fun world => .importHeld 1 (world.files.getD 0 default),
    fun world => .importHeld 2 (world.files.getD 1 default)]

def toyKept : World (Fin 3) Bytes Bytes := (recovery toyMessages).run toyPeople toyKeeping

def toyHoldings : List (Holding (Fin 3)) := [⟨2, "1000-2", 1⟩, ⟨1, "1000-1", 0⟩]

def toySent : World (Fin 3) Bytes Bytes :=
  (recovery toyMessages).apply toyPeople (.split 0 ⟨["bob", "carol"], toySplit, fun _ => [], 1⟩)

theorem toyMessages_sealed (pub message seed : Bytes) (size : message.length = aesKeySize) :
    toyMessages.rsaEncrypt pub message seed ≠ [] := by
  intro empty
  have length : ((pub ++ message).take 1000).length = 0 := congrArg List.length empty
  rw [List.length_take, List.length_append, size, aesKeySize] at length
  omega

theorem toyKept_reachable : (recovery toyMessages).Reachable (fun _ _ => True) toyKept := by
  have written : toySent.files.length = 2 := by decide +kernel
  have mem : ∀ i < 2, toySent.files.getD i default ∈ toySent.files := by
    intro i small
    rw [List.getD_eq_getElem _ _ (by omega)]
    exact List.getElem_mem _
  have start : (recovery toyMessages).start toyPeople := by
    refine ⟨rfl, rfl, fun person => ?_⟩
    fin_cases person <;> exact ⟨rfl, rfl⟩
  apply Machine.Reachable.run (.start start)
  exact ⟨⟨by decide, by decide⟩, trivial, Or.inl (mem 0 (by decide)), trivial,
    Or.inl (mem 1 (by decide)), trivial, trivial⟩

theorem toyKept_tables : ∀ holding ∈ toyHoldings,
    ((toyKept.desk holding.holder).heldShares.get? holding.shareId).map
      (fun row => (row.origin, getFriendRsaPub (toyKept.desk holding.holder) row.ownerName)) =
        some (some ⟨0, holding.position⟩, some [3]) := by
  decide +kernel

theorem toyKept_collects :
    (recovery toyMessages).Admits (fun _ _ => True) toyKept
        (collect 0 (fun _ => []) toyHoldings) ∧
      doReconstruct (((recovery toyMessages).run toyKept
        (collect 0 (fun _ => []) toyHoldings)).desk 0).entries = .ok toySplit.key := by
  have held : ∀ holding ∈ toyHoldings, Holds 0 toyKept holding := by
    intro holding member
    obtain ⟨row, found, shown⟩ := Option.map_eq_some_iff.mp (toyKept_tables holding member)
    exact ⟨row, found, congrArg Prod.fst shown⟩
  have listed : ∀ holding ∈ toyHoldings, ∀ row,
      (toyKept.desk holding.holder).heldShares.get? holding.shareId = some row →
      getFriendRsaPub (toyKept.desk holding.holder) row.ownerName =
        some (toyMessages.publicKey [3]) := by
    intro holding member row found
    have shown := toyKept_tables holding member
    rw [found] at shown
    exact congrArg Prod.snd (Option.some.inj shown)
  exact shares_bring_key_back toyMessages_lawful toyMessages_sealed toyKept_reachable
    rfl (by decide) held (by decide) (by decide) (.refl _)
    (by decide +kernel) listed _

end Collection

end UltimateEnigma.SocialRecovery
