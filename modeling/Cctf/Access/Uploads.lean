import Cctf.Access.Areas
import Cctf.Files.Keeping

/-!
# Uploads and downloads

What was uploaded can be downloaded, unchanged, from then on: no other request of any kind
touches the bytes or the record.

* `Stored` — what the responses of an upload show; `filing` is that they stay true.
* `handle_stores` — a file that an upload returns is stored.
* `Finds`, `download_finds` — a download of a file that is there.
* `download_after_upload` — **a download returns what was uploaded**.
-/

namespace Cctf

open Program Knowledge

/-! ## What is stored -/

/-- What is known of a file. -/
inductive Stored where
  | content (id : String) (bytes : Bytes)
  | record (row : FileRow)

/-- The request uploads the bytes with the id. -/
def HttpRequest.Uploads (req : HttpRequest) (id : String) (bytes : Bytes) : Prop :=
  ∃ uuid fields now name contentType, req.endpoint = .uploadFile uuid fields now ∧
    uuid.text = id ∧ uploaded fields = some (name, contentType, bytes)

/-- The id of the file that a request uploads. -/
def HttpRequest.uploadId (req : HttpRequest) : Option String :=
  match req.endpoint with
  | .uploadFile uuid _ _ => some uuid.text
  | _ => none

/-- What a response shows. -/
def FileOp.stored : (op : FileOp) → Except Failure op.Value → List Stored
  | .write id bytes, .ok _ => [.content id bytes]
  | .insertFile row, .ok _ => [.record row]
  | _, _ => []

/-- The calls to the files that a request makes: it removes nothing, and writes its own file. -/
def HttpRequest.Files (req : HttpRequest) : FileOp → Prop
  | .write id bytes => req.Uploads id bytes
  | .removeFile _ => False
  | .deleteFile _ => False
  | _ => True

/-- What a request knows of the files, in programs of the file service. -/
def HttpRequest.fileCalls (req : HttpRequest) :
    Knowledge FileOp (fun op => Except Failure op.Value) Stored where
  may _ _ := True
  shown := FileOp.stored
  guard _ op := req.Files op

/-- What a response to a handler shows of the files. -/
def ServerOp.stored : (op : ServerOp) → op.Resp → List Stored
  | .file op, r => op.stored r
  | _, _ => []

/-- What a request knows of the files. -/
def HttpRequest.filing (req : HttpRequest) : Knowledge ServerOp ServerOp.Resp Stored where
  may _ _ := True
  shown := ServerOp.stored
  guard _
    | .file op => req.Files op
    | _ => True

/-! ## The upload -/

section

variable {D : Deployment} {req : HttpRequest} {known : List Stored} {α : Type}

theorem learns_onFiles {p : Program FileOp (fun op => Except Failure op.Value) α}
    {P : List Stored → α → Prop} (h : req.fileCalls.Learns known p P) :
    req.filing.Learns known (onFiles p) P := by
  refine Learns.lift ?_ ?_ ?_ h
  · exact fun _ _ hr => hr
  · exact fun _ _ => rfl
  · exact fun _ _ hguard => hguard

/-- The bytes are there when the storage says so. -/
theorem store_learns {id : String} {bytes : Bytes} (huploads : req.Uploads id bytes) :
    req.fileCalls.LearnsOk known (LocalFileStorage.store id bytes) fun known' _ =>
      Stored.content id bytes ∈ known' := by
  refine LearnsOk.bind (P := fun _ _ => True) (LearnsOk.mk fun _ _ => trivial) fun known₁ _ _ _ => ?_
  refine LearnsOk.bind (P := fun _ _ => True) (m := io .createDirAll) ?_ fun known₂ _ _ _ => ?_
  · exact Learns.call trivial fun r _ => Learns.pure fun _ _ => trivial
  · refine Learns.call (show req.fileCalls.guard _ (.write id bytes) from huploads) fun r _ =>
      Learns.pure fun u heq => ?_
    cases r with
    | ok u' => exact List.mem_cons_self
    | error f => cases heq

/-- **A file that an upload returns is stored.** -/
theorem upload_learns {uuid : Uuid} {name contentType : String} {bytes : Bytes} {now : Int64}
    (huploads : req.Uploads uuid.text bytes) :
    req.fileCalls.LearnsOk known (D.files.upload uuid name contentType bytes now)
      fun known' file => Stored.content uuid.text bytes ∈ known' ∧
        Stored.record (.ofStored (D.files.record uuid.text name contentType bytes now)) ∈ known' ∧
        file = ⟨name, "/api/v1/files/" ++ uuid.text, some (D.files.checksum bytes)⟩ := by
  rw [FileService.upload]
  split_ifs
  · exact LearnsOk.throw _
  refine LearnsOk.bind (m := storage (LocalFileStorage.store uuid.text bytes))
    (P := fun known' _ => Stored.content uuid.text bytes ∈ known') ?_ fun known₁ _ _ hbytes => ?_
  · refine Learns.bind (store_learns huploads) fun known₁ r _ hbytes => Learns.pure fun u heq => ?_
    cases r with
    | ok u' => exact hbytes u' rfl
    | error e => cases heq
  refine LearnsOk.bind (m := FileRepo.save _) (P := fun known' _ =>
    Stored.record (.ofStored (D.files.record uuid.text name contentType bytes now)) ∈ known') ?_
    fun known₂ _ hsub hrow => LearnsOk.pure ⟨hsub hbytes, hrow, rfl⟩
  refine Learns.call (show req.fileCalls.guard _ (.insertFile _) from trivial) fun r _ =>
    Learns.pure fun u heq => ?_
  cases r with
  | ok u' => exact List.mem_cons_self
  | error f => cases heq

/-- The calls of somebody who may not change files. -/
theorem filing_of_within {areas : List Area} {op : ServerOp} (h : op.Within areas)
    (hfiles : Area.files ∉ areas) : req.filing.guard known op := by
  cases op with
  | file op =>
    cases op with
    | write id bytes => exact absurd (h (List.mem_singleton_self _)) hfiles
    | removeFile id => exact absurd (h (List.mem_singleton_self _)) hfiles
    | deleteFile id => exact absurd (h (List.mem_singleton_self _)) hfiles
    | _ => trivial
  | _ => trivial

theorem filing_of_calls {areas : List Area} (hfiles : Area.files ∉ areas) {p : Serving α}
    (h : p.Calls (ServerOp.Within areas)) {P : List Stored → α → Prop}
    (hP : ∀ known' a, P known' a) : req.filing.Learns known p P :=
  Learns.of_calls (fun _ _ _ hop => filing_of_within hop hfiles) (fun known' a _ => hP known' a) h

/-- What a reply to an upload says. -/
def Deployment.Stores (D : Deployment) (req : HttpRequest) (known : List Stored) (reply : Reply) :
    Prop :=
  ∀ uuid fields now file, req.endpoint = .uploadFile uuid fields now → reply.body = .file file →
    ∃ name contentType bytes, uploaded fields = some (name, contentType, bytes) ∧
      Stored.content uuid.text bytes ∈ known ∧
      Stored.record (.ofStored (D.files.record uuid.text name contentType bytes now)) ∈ known ∧
      file = ⟨name, "/api/v1/files/" ++ uuid.text, some (D.files.checksum bytes)⟩

/-- A refusal says nothing of a file. -/
theorem stores_refused (e : LocalizedError) : D.Stores req known e.reply := by
  intro uuid fields now file _ hbody
  cases hbody

theorem uploadFile_stores {uuid : Uuid} {fields : List UploadField} {now : Int64}
    (hreq : req.endpoint = .uploadFile uuid fields now) :
    req.filing.Learns known (D.uploadFile req uuid fields now) (D.Stores req) := by
  show req.filing.Learns known (authenticated D req _) _
  rw [authenticated]
  cases D.user req with
  | error e => exact Learns.pure (stores_refused _)
  | ok id =>
    refine Learns.bind (P := fun _ _ => True) (filing_of_calls
      (show Area.files ∉ ([] : List Area) from List.not_mem_nil)
      (within_onDatabase (accountById_calls id)) fun _ _ => trivial) fun known₁ found _ _ => ?_
    cases found.toOption.join with
    | none => exact Learns.pure (stores_refused _)
    | some account =>
      show req.filing.Learns known₁ (if account.role ≠ .admin then _ else _) _
      split_ifs
      · exact Learns.pure (stores_refused _)
      cases huploaded : uploaded fields with
      | none => exact Learns.pure (stores_refused _)
      | some part =>
        obtain ⟨name, contentType, bytes⟩ := part
        refine Learns.bind (learns_onFiles (upload_learns
          ⟨uuid, fields, now, name, contentType, hreq, rfl, huploaded⟩)) fun known₂ r _ hr => ?_
        cases r with
        | error e => exact Learns.pure (stores_refused _)
        | ok file =>
          obtain ⟨hbytes, hrow, rfl⟩ := hr file rfl
          refine Learns.pure fun uuid' fields' now' file' hreq' hbody => ?_
          rw [hreq] at hreq'
          cases hreq'
          cases hbody
          exact ⟨name, contentType, bytes, huploaded, hbytes, hrow, rfl⟩

/-- **Every request keeps to the files that it may write.** -/
theorem handle_stores (D : Deployment) (req : HttpRequest) :
    req.filing.Learns [] (D.handle req) (D.Stores req) := by
  by_cases hupload : ∃ uuid fields now, req.endpoint = .uploadFile uuid fields now
  · obtain ⟨uuid, fields, now, hreq⟩ := hupload
    rw [Deployment.handle, hreq]
    exact uploadFile_stores hreq
  · refine filing_of_calls ?_ (handle_writes D req) fun known' reply uuid fields now file hreq =>
      absurd ⟨uuid, fields, now, hreq⟩ hupload
    cases hreq : req.endpoint with
    | uploadFile uuid fields now => exact absurd ⟨uuid, fields, now, hreq⟩ hupload
    | deleteChallenge id deleteSolves => cases deleteSolves <;> simp [Endpoint.writes]
    | _ => simp [Endpoint.writes]

end

/-! ## What stays -/

section

variable {B : Backend} {s : Server}

/-- Only a call to the files changes them. -/
theorem ServerOp.eq_file_of_files {op : ServerOp} (h : Area.files ∈ op.writes) :
    ∃ fop, op = .file fop := by
  cases op with
  | file fop => exact ⟨fop, rfl⟩
  | query q => exact absurd (q.writes_subset h) (by decide)
  | challenge st => cases st <;> simp [writes, Pg.ChallengeRepo.Statement.writes] at h
  | notice op => cases op <;> simp [writes] at h
  | app op =>
    cases op with
    | repo op => cases op <;> simp [writes] at h
    | _ => simp [writes] at h

/-- A call to the files fails, or does what it does. -/
theorem Server.answer_file (op : FileOp) :
    ((∃ f, (handler B).answer s (.file op) = .error f) ∧
        ((handler B).next s (.file op)).files = s.files) ∨
      ∃ value, (handler B).answer s (.file op) = .ok value ∧
        op.perform B.refusal s.files = .ok (value, ((handler B).next s (.file op)).files) := by
  rcases serve_cases (B := B) (s := s) (.file op) with ⟨f, r, hfailed, heq⟩ | heq
  · cases hfailed
    exact .inl ⟨⟨f, congrArg Prod.fst heq⟩, congrArg (fun p => p.2.files) heq⟩
  · have hanswer : (handler B).answer s (.file op) = _ := congrArg Prod.fst heq
    have hnext : ((handler B).next s (.file op)).files = _ := congrArg (fun p => p.2.files) heq
    simp only [perform, performFile] at hanswer hnext
    cases hresult : op.perform B.refusal s.files with
    | error f =>
      rw [hresult] at hanswer hnext
      exact .inl ⟨⟨f, hanswer⟩, hnext⟩
    | ok value =>
      rw [hresult] at hanswer hnext
      exact .inr ⟨value.1, hanswer, by rw [hnext]⟩

variable {ι : Type} {req : ι → HttpRequest} {i : ι} {known : List Stored}

/-- What a fact says of the files. -/
def Stored.Holds (req : ι → HttpRequest) (w : FileWorld) : Stored → Prop
  | .content id bytes => w.bytes id = some bytes ∧ ∃ i, (req i).Uploads id bytes
  | .record row => ∃ row', row.stored = some row' ∧ row' ∈ w.files.rows

/-- The ids of the uploads are fresh. -/
def FreshUploads (req : ι → HttpRequest) : Prop :=
  ∀ i j id, (req i).uploadId = some id → (req j).uploadId = some id → i = j

/-- One id, one file. -/
theorem FreshUploads.bytes_eq (hfresh : FreshUploads req) {i j : ι} {id : String}
    {bytes bytes' : Bytes} (h : (req i).Uploads id bytes) (h' : (req j).Uploads id bytes') :
    bytes = bytes' := by
  obtain ⟨uuid, fields, now, name, contentType, hreq, hid, huploaded⟩ := h
  obtain ⟨uuid', fields', now', name', contentType', hreq', hid', huploaded'⟩ := h'
  obtain rfl : i = j := hfresh i j id (by simp [HttpRequest.uploadId, hreq, hid])
    (by simp [HttpRequest.uploadId, hreq', hid'])
  rw [hreq] at hreq'
  cases hreq'
  rw [huploaded] at huploaded'
  cases huploaded'
  rfl

/-- **What is known of a file stays true**, whoever calls what. -/
theorem Stored.Holds.next (hfresh : FreshUploads req) {op : ServerOp}
    (hguard : (req i).filing.guard known op) {f : Stored} (h : f.Holds req s.files) :
    f.Holds req ((Server.handler B).next s op).files := by
  by_cases hfiles : Area.files ∈ op.writes
  · obtain ⟨fop, rfl⟩ := ServerOp.eq_file_of_files hfiles
    rcases Server.answer_file (B := B) (s := s) fop with ⟨-, hsame⟩ | ⟨value, -, hresult⟩
    · rw [hsame]
      exact h
    · cases fop with
      | write id bytes =>
        obtain ⟨-, hnext⟩ := Prod.mk.inj (Except.ok.inj hresult)
        rw [← hnext]
        cases f with
        | record row => exact h
        | content id' bytes' =>
          obtain ⟨hbytes, j, huploads⟩ := h
          refine ⟨?_, j, huploads⟩
          by_cases hid : id' = id
          · subst hid
            rw [hfresh.bytes_eq huploads hguard]
            exact Function.update_self ..
          · exact (Function.update_of_ne hid _ _).trans hbytes
      | insertFile row =>
        obtain ⟨row', files, -, hinsert, hnext⟩ := FileOp.perform_insertFile hresult
        rw [hnext]
        cases f with
        | content id bytes => exact h
        | record old => exact h.imp fun r hr => ⟨hr.1, ((Table.mem_insert hinsert).1 r).mpr (.inl hr.2)⟩
      | removeFile id => exact hguard.elim
      | deleteFile id => exact hguard.elim
      | createDirAll =>
        obtain ⟨-, hnext⟩ := Prod.mk.inj (Except.ok.inj hresult)
        rw [← hnext]
        exact h
      | _ => exact absurd hfiles List.not_mem_nil
  · rw [show ((Server.handler B).next s op).files = s.files from same_next hfiles]
    exact h

/-- What a response shows holds after the call. -/
theorem Stored.holds_answer {op : ServerOp} (hguard : (req i).filing.guard known op) {f : Stored}
    (hf : f ∈ op.stored ((Server.handler B).answer s op)) :
    f.Holds req ((Server.handler B).next s op).files := by
  cases op with
  | file fop =>
    rcases Server.answer_file (B := B) (s := s) fop with
      ⟨⟨f', hanswer⟩, -⟩ | ⟨value, hanswer, hresult⟩
    · rw [hanswer] at hf
      cases fop <;> exact absurd hf List.not_mem_nil
    · rw [hanswer] at hf
      cases fop with
      | write id bytes =>
        obtain rfl := List.mem_singleton.mp hf
        obtain ⟨-, hnext⟩ := Prod.mk.inj (Except.ok.inj hresult)
        rw [← hnext]
        exact ⟨Function.update_self .., i, hguard⟩
      | insertFile row =>
        obtain rfl := List.mem_singleton.mp hf
        obtain ⟨row', files, hstored, hinsert, hnext⟩ := FileOp.perform_insertFile hresult
        rw [hnext]
        exact ⟨row', hstored, ((Table.mem_insert hinsert).1 row').mpr (.inr rfl)⟩
      | _ => exact absurd hf List.not_mem_nil
  | _ => exact absurd hf List.not_mem_nil

/-- **The guarantee of the uploads.** -/
def FreshUploads.promises (B : Backend) (hfresh : FreshUploads req) :
    Guarantee (Server.handler B) ι (List Stored) :=
  .ofFacts (fun i => (req i).filing) (fun _ _ => True) ServerOp.stored (fun _ => True)
    (fun s f => f.Holds req s.files) (fun _ _ _ => trivial) (fun _ _ _ => trivial)
    (fun _ _ hguard hf => hf.next hfresh hguard)
    (fun _ _ hguard hf => Stored.holds_answer hguard hf)

end

section

variable {ι : Type} [DecidableEq ι] {D : Deployment} {B : Backend} {req : ι → HttpRequest}
  {s₀ : Server} {i j : ι} {before rest : List ι}

/-- **An uploaded file is there from then on**, as the columns keep its record. -/
theorem stored_after (hfresh : FreshUploads req) {uuid : Uuid} {fields : List UploadField}
    {now : Int64} (hreq : (req i).endpoint = .uploadFile uuid fields now) {r : Reply}
    (hdone : (D.after B req s₀ before).prog i = .done r) {file : ChallengeFile}
    (hfile : r.body = .file file) :
    ∃ name contentType bytes row, uploaded fields = some (name, contentType, bytes) ∧
      file = ⟨name, "/api/v1/files/" ++ uuid.text, some (D.files.checksum bytes)⟩ ∧
      (FileRow.ofStored (D.files.record uuid.text name contentType bytes now)).stored = some row ∧
      ∀ rest, (D.after B req s₀ (before ++ rest)).store.files.bytes uuid.text = some bytes ∧
        row ∈ (D.after B req s₀ (before ++ rest)).store.files.files.rows := by
  have hpooled : (hfresh.promises B).Pooled (fun i known reply => D.Stores (req i) known reply)
      (D.serving req s₀) :=
    ⟨trivial, fun i => ⟨[], fun _ h => absurd h List.not_mem_nil,
      Along.imp (fun _ _ hpost => hpost.2) (handle_stores D (req i))⟩⟩
  have hrest : ∀ rest, ∃ name contentType bytes,
      uploaded fields = some (name, contentType, bytes) ∧
      file = ⟨name, "/api/v1/files/" ++ uuid.text, some (D.files.checksum bytes)⟩ ∧
      (D.after B req s₀ (before ++ rest)).store.files.bytes uuid.text = some bytes ∧
      ∃ row, (FileRow.ofStored
        (D.files.record uuid.text name contentType bytes now)).stored = some row ∧
        row ∈ (D.after B req s₀ (before ++ rest)).store.files.files.rows := by
    intro rest
    have hstays : (D.after B req s₀ (before ++ rest)).prog i = .done r := by
      rw [Deployment.after, Pool.run_append]
      exact Pool.done_run hdone rest
    obtain ⟨known, hknown, hstores⟩ := (hpooled.run (before ++ rest)).result hstays
    obtain ⟨name, contentType, bytes, huploaded, hbytes, hrow, rfl⟩ :=
      hstores uuid fields now file hreq hfile
    exact ⟨name, contentType, bytes, huploaded, rfl, (hknown _ hbytes).1, hknown _ hrow⟩
  obtain ⟨name, contentType, bytes, huploaded, hname, -, row, hrow, -⟩ := hrest []
  refine ⟨name, contentType, bytes, row, huploaded, hname, hrow, fun rest => ?_⟩
  obtain ⟨name', contentType', bytes', huploaded', -, hbytes, row', hrow', hmem⟩ := hrest rest
  rw [huploaded] at huploaded'
  cases huploaded'
  obtain rfl := Option.some.inj (hrow.symm.trans hrow')
  exact ⟨hbytes, hmem⟩

/-! ## The download -/

/-- The responses that a download gets while the file is there. -/
def FileOp.Finds (row : FileRow) (bytes : Bytes) : (op : FileOp) → Except Failure op.Value → Prop
  | .selectFile id, r => id = row.id → (∃ f, r = .error f) ∨ r = .ok (some row)
  | .read id, r => id = row.id → (∃ f, r = .error f) ∨ r = .ok (some bytes)
  | _, _ => True

/-- What a program remembers that reads a file which is there. -/
def finding (row : FileRow) (bytes : Bytes) :
    Knowledge FileOp (fun op => Except Failure op.Value) (Σ op : ServerOp, op.Resp) where
  may := FileOp.Finds row bytes
  shown op r := [⟨.file op, r⟩]
  guard _ _ := True

/-- An error that comes from a call to the table or to the directory. -/
def FailsWith (id : String) (answered : (op : ServerOp) → op.Resp → Prop) (e : RepoError) : Prop :=
  ∃ f, (e = f.err ∧ answered (.file (.selectFile id)) (Except.error f)) ∨
    (e = .internal f.message ∧ answered (.file (.read id)) (Except.error f))

/-- **A download of a file that is there** returns it, or fails as a call of it did. -/
theorem download_finds (row : FileRow) (bytes : Bytes) (hvalid : validateId row.id = .ok ()) :
    (finding row bytes).Learns [] (FileService.download row.id).run fun known r =>
      r = .ok (row.toStored, bytes) ∨
        ∃ e, r = .error (.repo e) ∧ FailsWith row.id (fun op r => ⟨op, r⟩ ∈ known) e := by
  have hretrieve : ∀ known, (finding row bytes).Learns known
      (storage (LocalFileStorage.retrieve row.id)).run fun known' r => r = .ok bytes ∨
        ∃ e, r = .error (.repo e) ∧ FailsWith row.id (fun op r => ⟨op, r⟩ ∈ known') e := by
    intro known
    rw [LocalFileStorage.retrieve, hvalid]
    refine Learns.call (show (finding row bytes).guard _ (.read row.id) from trivial) fun r hr => ?_
    rcases hr rfl with ⟨f, rfl⟩ | rfl
    · exact Learns.pure (.inr ⟨_, rfl, f, .inr ⟨rfl, List.mem_cons_self⟩⟩)
    · exact Learns.pure (.inl rfl)
  refine Learns.call (show (finding row bytes).guard _ (.selectFile row.id) from trivial)
    fun r hr => ?_
  rcases hr rfl with ⟨f, rfl⟩ | rfl
  · exact Learns.pure (.inr ⟨_, rfl, f, .inl ⟨rfl, List.mem_cons_self⟩⟩)
  · show (finding row bytes).Learns _ ((storage (LocalFileStorage.retrieve row.id)).run >>=
      ExceptT.bindCont fun bytes => pure (row.toStored, bytes)) _
    refine Learns.bind (hretrieve _) fun _ r _ hr => ?_
    rcases hr with rfl | ⟨e, rfl, hfails⟩
    · exact Learns.pure (.inl rfl)
    · exact Learns.pure (.inr ⟨e, rfl, hfails⟩)

/-- The same in a whole program. -/
def downloading (row : FileRow) (bytes : Bytes) :
    Knowledge ServerOp ServerOp.Resp (Σ op : ServerOp, op.Resp) :=
  .recording fun
    | .file op, r => op.Finds row bytes r
    | _, _ => True

/-- What is replied to a download of a file that is there: the file, if the request has a session
and no call fails. -/
def Deployment.Downloads (D : Deployment) (req : HttpRequest) (row : FileRow) (bytes : Bytes)
    (answered : (op : ServerOp) → op.Resp → Prop) (reply : Reply) : Prop :=
  (∃ e, D.user req = .error e ∧ reply = e.reply) ∨
    (∃ e, reply = (ServiceError.repo e).reply req.lang ∧ FailsWith row.id answered e) ∨
    reply = ⟨200, .download (some row.contentType |>.filter D.isHeaderValue)
      (some (contentDisposition row.name) |>.filter D.isHeaderValue) bytes⟩

theorem handle_downloads {req : HttpRequest} {row : FileRow} (bytes : Bytes)
    (hreq : req.endpoint = .downloadFile row.id) (hvalid : validateId row.id = .ok ()) :
    (downloading row bytes).Learns [] (D.handle req) fun known reply =>
      D.Downloads req row bytes (fun op r => ⟨op, r⟩ ∈ known) reply := by
  rw [Deployment.handle, hreq]
  show (downloading row bytes).Learns [] (authenticated D req _) _
  rw [authenticated]
  cases huser : D.user req with
  | error e => exact Learns.pure (.inl ⟨e, huser, rfl⟩)
  | ok id =>
    refine Learns.bind (P := fun known r => r = .ok (row.toStored, bytes) ∨
      ∃ e, r = .error (.repo e) ∧ FailsWith row.id (fun op r => ⟨op, r⟩ ∈ known) e) ?_
      fun _ r _ hr => ?_
    · refine Learns.lift ?_ ?_ ?_ (download_finds row bytes hvalid)
      · exact fun _ _ hr => hr
      · exact fun _ _ => rfl
      · exact fun _ _ hguard => hguard
    · rcases hr with rfl | ⟨e, rfl, hfails⟩
      · exact Learns.pure (.inr (.inr rfl))
      · exact Learns.pure (.inr (.inl ⟨e, rfl, hfails⟩))

omit [DecidableEq ι] in
/-- The files answer as expected while the file is there. -/
theorem finds_answer {s : Server} {row : FileRow} {bytes : Bytes}
    (hbytes : s.files.bytes row.id = some bytes) (hrow : row ∈ s.files.files.rows)
    (op : ServerOp) : (downloading row bytes).may op ((Server.handler B).answer s op) := by
  cases op with
  | file op =>
    rcases Server.answer_file (B := B) (s := s) op with ⟨⟨f, he⟩, -⟩ | ⟨value, hvalue, hresult⟩
    · cases op with
      | selectFile id => exact fun _ => .inl ⟨f, he⟩
      | read id => exact fun _ => .inl ⟨f, he⟩
      | _ => trivial
    · cases op with
      | selectFile id =>
        rintro rfl
        obtain ⟨rfl, -⟩ := Prod.mk.inj (Except.ok.inj hresult)
        exact .inr (hvalue.trans (congrArg Except.ok (Table.find?_eq_some_iff.mpr ⟨hrow, rfl⟩)))
      | read id =>
        rintro rfl
        obtain ⟨rfl, -⟩ := Prod.mk.inj (Except.ok.inj hresult)
        exact .inr (hvalue.trans (congrArg Except.ok hbytes))
      | _ => trivial
  | _ => trivial

/-- **A download returns what was uploaded**: whatever other requests do in between, and however
their calls are interleaved, a download of an uploaded file that begins after the upload was
answered returns its bytes with its name and its type, or fails as its look-up or its read did,
or has no session.  The type is the one of the upload as its column keeps it. -/
theorem download_after_upload (hfresh : FreshUploads req) {uuid : Uuid}
    {fields : List UploadField} {now : Int64}
    (hupload : (req i).endpoint = .uploadFile uuid fields now) {r : Reply}
    (hdone : (D.after B req s₀ before).prog i = .done r) {file : ChallengeFile}
    (hfile : r.body = .file file) (hdownload : (req j).endpoint = .downloadFile uuid.text)
    (hwaiting : (D.after B req s₀ before).prog j = D.handle (req j)) {reply : Reply}
    (hreply : (D.after B req s₀ (before ++ rest)).prog j = .done reply) :
    ∃ name contentType bytes, uploaded fields = some (name, contentType, bytes) ∧
      file = ⟨name, "/api/v1/files/" ++ uuid.text, some (D.files.checksum bytes)⟩ ∧
      ((∃ e, D.user (req j) = .error e ∧ reply = e.reply) ∨
        (∃ e, reply = (ServiceError.repo e).reply (req j).lang ∧
          FailsWith uuid.text (Pool.Answered (Server.handler B)
            ((D.serving req s₀).trace (Server.handler B) (before ++ rest)) j) e) ∨
        reply = ⟨200, .download (Pg.kept 255 contentType |>.filter D.isHeaderValue)
          (some (contentDisposition name) |>.filter D.isHeaderValue) bytes⟩) := by
  obtain ⟨name, contentType, bytes, row, huploaded, hname, hrow, hstored⟩ :=
    stored_after hfresh hupload hdone hfile
  refine ⟨name, contentType, bytes, huploaded, hname, ?_⟩
  obtain ⟨hid, hrowName, htype⟩ := FileRow.of_stored hrow
  -- the id of the file is a uuid, which its column keeps
  have hlength : uuid.text.length ≤ 64 := by
    have hchars := uuid.length_text
    rw [String.length_toList] at hchars
    omega
  have hkept : row.id = uuid.text :=
    Option.some.inj (hid.symm.trans (Pg.kept_of_length_le hlength))
  rw [← hkept] at hdownload ⊢
  obtain ⟨known, hanswered, hdownloads⟩ := recorded (Q := fun known reply =>
      D.Downloads (req j) row bytes (fun op r => ⟨op, r⟩ ∈ known) reply)
    (hwaiting ▸ handle_downloads bytes hdownload (hkept ▸ validateId_text uuid))
    (fun rest => finds_answer (hkept ▸ (hstored rest).1) (hstored rest).2) hreply
  rcases hdownloads with hsession | ⟨e, hfailed, f, hfails⟩ | hfound
  · exact .inl hsession
  · refine .inr (.inl ⟨e, hfailed, f, ?_⟩)
    exact hfails.imp (And.imp id (hanswered _ _)) (And.imp id (hanswered _ _))
  · rw [hrowName, ← htype] at hfound
    exact .inr (.inr hfound)

end

/-! ### One file -/

/-- A deployment that takes files of some bytes. -/
def filesDeployment : Deployment := { smallDeployment with files := ⟨fun _ => [], 100⟩ }

/-- The administrator uploads a file, and downloads it. -/
def uploadsHello (first : Bool) : HttpRequest :=
  withSession (if first
    then .uploadFile firstUuid [⟨some "hello.txt", some "text/plain", some helloBytes⟩] 100
    else .downloadFile firstUuid.text)

/-- It comes back as it was. -/
theorem download_after_upload_hello : ∃ reply,
    (filesDeployment.after smallBackend uploadsHello smallServer
      ([true, true, true, true] ++ [false, false])).prog false = .done reply ∧
    reply = ⟨200, .download (some "text/plain") (some "attachment;filename=\"hello.txt\"")
      helloBytes⟩ := by
  have hruns : ((filesDeployment.after smallBackend uploadsHello smallServer
      [true, true, true, true]).prog true).value?.any (fun r => r.body matches .file _) = true ∧
      ((filesDeployment.after smallBackend uploadsHello smallServer
        ([true, true, true, true] ++ [false, false])).prog false).value?.any
          (fun r => decide (r.status = 200)) = true := by decide +kernel
  obtain ⟨r, hvalue, hfile⟩ := (Option.any_eq_true _ _).mp hruns.1
  obtain ⟨reply, hvalue', hstatus⟩ := (Option.any_eq_true _ _).mp hruns.2
  have hreply := Program.value?_eq_some_iff.mp hvalue'
  refine ⟨reply, hreply, ?_⟩
  split at hfile
  · rename_i file hbody
    have hfresh : FreshUploads uploadsHello := by
      have honly : ∀ i id, (uploadsHello i).uploadId = some id → i = true := by
        intro i id h
        cases i with
        | true => rfl
        | false => cases h
      exact fun i j id hi hj => (honly i id hi).trans (honly j id hj).symm
    have hupload : (uploadsHello true).endpoint = .uploadFile firstUuid
        [⟨some "hello.txt", some "text/plain", some helloBytes⟩] 100 := rfl
    have hdownload : (uploadsHello false).endpoint = .downloadFile firstUuid.text := rfl
    obtain ⟨name, contentType, bytes, huploaded, -, hcases⟩ :=
      download_after_upload hfresh hupload (Program.value?_eq_some_iff.mp hvalue) hbody hdownload
        (waiting_of_not_mem (by decide)) hreply
    cases huploaded
    rcases hcases with ⟨e, huser, -⟩ | ⟨e, rfl, -⟩ | rfl
    · have hok : filesDeployment.user (uploadsHello false) = .ok ⟨"account-123"⟩ := by
        decide +kernel
      rw [hok] at huser
      cases huser
    · have hne : (ServiceError.repo e).status ≠ 200 := by
        cases e <;> simp [ServiceError.status]
      exact absurd (of_decide_eq_true hstatus) hne
    · rfl
  · cases hfile

end Cctf
