import TaskclusterWorker.Runtime.Atomics
import TaskclusterWorker.Native.Sandbox
import TaskclusterWorker.Native.Invariant
import TaskclusterWorker.Native.Progress
import TaskclusterWorker.Native.Termination
import TaskclusterWorker.Native.Resolution
import TaskclusterWorker.Native.Registry
import TaskclusterWorker.Native.Construct
import TaskclusterWorker.Native.Context
import TaskclusterWorker.Qemu.Monitor
import TaskclusterWorker.Qemu.VirtualMachine
import TaskclusterWorker.Qemu.Lifecycle
import TaskclusterWorker.Qemu.Quiescence
import TaskclusterWorker.Qemu.Options
import TaskclusterWorker.QemuBuild.BuildImage
