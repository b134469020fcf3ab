import MultipartUpload.Options.Directory
import MultipartUpload.Upload.Engine

/-!
# Blob stores

A blob is put into a container under a checked key. The engine may cut it into parts only if its put
configuration asks for multipart. A directory is an empty object whose key ends in a slash.
-/

namespace MultipartUpload

structure BlobStore where
  engine : Engine

namespace BlobStore

/-- The content type of directory markers. -/
def directoryContentType : String := "application/x-directory"

def ofConfig (c : Config) : Except ConfigError BlobStore :=
  match Engine.ofConfig c with
  | .error e => .error e
  | .ok engine => .ok ⟨engine⟩

/-- A blob store under a configuration has its limits, and reads payloads itself. -/
theorem eq_of_ofConfig {c : Config} {blobs : BlobStore} (h : ofConfig c = .ok blobs) :
    Sizing.ofConfig c = .ok (.ofLimits c) ∧ blobs = ⟨{ sizing := .ofLimits c }⟩ := by
  unfold ofConfig Engine.ofConfig Sizing.ofConfig at h
  unfold Sizing.ofConfig
  rcases hvalid : c.validate with e | ⟨⟩
  · simp [hvalid] at h
  · simp only [hvalid] at h
    exact ⟨rfl, (Except.ok.inj h).symm⟩

theorem ofConfig_of_validate {c : Config} (h : c.validate = .ok ()) :
    ofConfig c = .ok ⟨{ sizing := .ofLimits c }⟩ := by
  simp only [ofConfig, Engine.ofConfig, Sizing.ofConfig, h]

def putBlob (store : BlobStore) (service : Service σ) (container : String) (blob : Blob)
    (config : Option PutConfiguration) (state : σ) : Talk σ Delivery :=
  match ObjectKey.ofString blob.name with
  | .error e => .silent { result := .error (.name e) } state
  | .ok _ =>
    if config.any (·.multipart) then store.engine.upload service container blob config state
    else
      Engine.putWhole service container blob (RequestOptions.ofConfiguration config).main state

/-- The key of a directory: its name with exactly one slash at the end. -/
def directoryKey (name : String) : String :=
  String.ofList (Text.dropEnd (· == '/') name.toList ++ ['/'])

/-- The marker of a directory. -/
def directoryMarker (name : String) : Blob :=
  ⟨{ name := directoryKey name, contentType := directoryContentType }, .empty⟩

/-- Puts a blob, and reads its payload if it goes up in parts. -/
def executePut (store : BlobStore) (service : Service σ) (container : String) (blob : Blob)
    (config : Option PutConfiguration) (state : σ) : Talk σ (Outcome Delivery) :=
  match ObjectKey.ofString blob.name, config.any (·.multipart) with
  | .ok _, true => Engine.execute store.engine.sizing service container blob config state
  | _, _ => (store.putBlob service container blob config state).map .returned

def createDirectory (store : BlobStore) (service : Service σ) (container name : String)
    (options : DirectoryOptions) (state : σ) : Talk σ Delivery :=
  store.putBlob service container (directoryMarker name) options.putConfiguration? state

end BlobStore

end MultipartUpload
