import PartitionHost.Bucket
import PartitionHost.Text.Quoted

/-!
# Buckets as text

A bucket with all its contents in one line, for error reports: keys in ascending order, values as octets
with the revisions of their writes.
-/

namespace PartitionHost.Bucket

def entryText (e : String × Stamped) : String :=
  s!"{Text.quoted e.1}: ({Text.quotedOctets e.2.value}, {e.2.revision})"

def Server.text (s : Server) : String :=
  let data := ", ".intercalate (s.bucket.entries.entries.map entryText)
  s!"SimpleKVStore \x7b name: {Text.quoted s.name}, state: RwLock \x7b data: KVState \x7b " ++
    s!"exists: {s.bucket.created}, data: \x7b{data}\x7d, revision: {s.bucket.revision} \x7d \x7d \x7d"

end PartitionHost.Bucket
