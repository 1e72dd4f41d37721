import BardCsi.Ceph.AbandonedClones
import BardCsi.Ceph.Capacity
import BardCsi.Ceph.Classifiers
import BardCsi.Ceph.CloneChains
import BardCsi.Ceph.Handles
import BardCsi.Ceph.Isolation
import BardCsi.Ceph.KmipRecords
import BardCsi.Ceph.Retire
import BardCsi.Ceph.SnapshotDeletion
import BardCsi.Ceph.Takeover
import BardCsi.Ceph.Unstage
import BardCsi.Cephfs.CloneRetry
import BardCsi.Cephfs.DeleteKey
import BardCsi.Driver.Clusters
import BardCsi.Driver.GroupPages
import BardCsi.Driver.InFlight
import BardCsi.Driver.Watch
import BardCsi.Inspect.Snapshots
import BardCsi.Inspect.Topology
import BardCsi.Iscsi.Publish
import BardCsi.Iscsi.Unstage
import BardCsi.Lvm.Clones
import BardCsi.Metrics
import BardCsi.Nfs.Archives
import BardCsi.Nfs.Archiving
import BardCsi.VolumeNames
