import FixedExtract.Text.CharacterName.Run
/-!
# Names in historic scripts

The characters from U+10000 to U+1BFFF: ancient scripts, from Linear B to the hieroglyphs.
-/

namespace FixedExtract.Text

/-- The runs of these characters, in ascending order. -/
def historicNames : List NameRun :=
  [⟨65536, ["aLINEAR B SYLLABLE B008 Au38 Eu28 Iu61 Ou10 Uu01 DAu45 DEu07 DIu14 DOu51 DUv7 JAu46 J",
     "E"]⟩,
   ⟨65549, ["aLINEAR B SYLLABLE B036 JOu65 JUu77 KAu44 KEu67 KIu70 KOu81 KUv0 MAu13 MEu73 MIu15 MO",
     "u23 MUu06 NAu24 NEu30 NIu52 NOv5 NUu03 PAu72 PEu39 PIu11 POu50 PUu16 QAu78 QEu21 QIu32 QO"]⟩,
   ⟨65576, ["aLINEAR B SYLLABLE B060 RAu27 REu53 RIu02 ROu26 RUu31 SAu09 SEu41 SIu12 SOu58 SUv9 TA",
     "u04 TEu37 TIu05 TOu69 TUu54 WAu75 WEu40 WIv2 WO"]⟩,
   ⟨65596, ["aLINEAR B SYLLABLE B017 ZAu74 ZE"]⟩,
   ⟨65599, ["aLINEAR B SYLLABLE B020 ZOv5 A2u43 A3u85 AUu71 DWEu90 DWOu48 NWAu29 PU2u62 PTEu76 RA2",
     "u33 RA3u68 RO2v6 TA2u87 TWEu91 TWO"]⟩,
   ⟨65616, ["aLINEAR B SYMBOL B018t9s22s34s47t9s56s63t4s79s82t3t6t9"]⟩,
   ⟨65664, ["aLINEAR B IDEOGRAM B100 MANv2 WOMANv4 DEERv5 EQUIDwF MAREwM STALLIONv6F EWEwM RAMv7F ",
     "SHE-GOATwM HE-GOATv8F SOWwM BOARv9F COWwM BULLu20 WHEATv1 BARLEYv2 OLIVEv3 SPICEv5 CYPERUSjM",
     "ONOGRAM B127 KAPOv8 KANAKOjIDEOGRAM B130 OILv1 WINEv2jMONOGRAM B133 AREPAv5 MERIjIDEOGRAM B1",
     "40 BRONZEv1 GOLDv2v5 WOOLv6u50v1 HORNv2v3v4jMONOGRAM B156 TURO2jIDEOGRAM B157v8v9 CLOTHu60v1",
     "v2 GARMENTv3 ARMOURv4v5v6v7v8v9u70v1v2v3 MONTHv4v6 TREEv7v8v9u80v1v2v3v4v5v9u90v1 HELMETt220",
     " FOOTSTOOLv5 BATHTUBu30 SPEARv1 ARROWv2v3 SWORDv4v6u40 WHEELED CHARIOTv1 CHARIOTv2 CHARIOT F",
     "RAMEv3 WHEELv5v6jMONOGRAM B247 DIPTEjIDEOGRAM B248v9u51v2v3v4 DARTv5v6v7v8v9sVESSEL B155zb20",
     "0zd1zd2zd3zd4zd5zd6zd7zd8zd9zc10zd1zd2zd3zd4zd5zd6zd7zd8zd9zc21zd2zd6zd7zd8zd9zc50zb305"]⟩,
   ⟨65792, ["aAEGEAN WORD SEPARATOR LINEwDOThCHECK MARK"]⟩,
   ⟨65799, ["aAEGEAN NUMBER ONEoTWOpHREEoFOURpIVEoSIXpEVENoEIGHToNINEoTENpWENTYpHIRTYoFORTYpIFTYoS",
     "IXTYpEVENTYoEIGHTYoNINETYoONE HUNDREDoTWO HUNDREDpHREE HUNDREDoFOUR HUNDREDpIVE HUNDREDoSIX ",
     "HUNDREDpEVEN HUNDREDoEIGHT HUNDREDoNINE HUNDREDoONE THOUSANDoTWO THOUSANDpHREE THOUSANDoFOUR",
     " THOUSANDpIVE THOUSANDoSIX THOUSANDpEVEN THOUSANDoEIGHT THOUSANDoNINE THOUSANDoTEN THOUSANDp",
     "WENTY THOUSANDpHIRTY THOUSANDoFORTY THOUSANDpIFTY THOUSANDoSIXTY THOUSANDpEVENTY THOUSANDoEI",
     "GHTY THOUSANDoNINETY THOUSAND"]⟩,
   ⟨65847, ["aAEGEAN WEIGHT BASE UNIToFIRST SUBUNIToSECOND SUBUNIToTHIRD SUBUNIToFOURTH SUBUNIThDR",
     "Y MEASURE FIRST SUBUNIThLIQUID MEASURE FIRST SUBUNIThMEASURE SECOND SUBUNITpTHIRD SUBUNITaGR",
     "EEK ACROPHONIC ATTIC ONE QUARTERzcHALFzcDRACHMAxFIVEzaFTYzaVE HUNDREDzdTHOUSANDzaFTY THOUSAN",
     "DzaVE TALENTSxTEN TALENTSxFIFTY TALENTSxONE HUNDRED TALENTSxFIVE HUNDRED TALENTSxONE THOUSAN",
     "D TALENTSxFIVE THOUSAND TALENTSzdSTATERSxTEN STATERSxFIFTY STATERSxONE HUNDRED STATERSxFIVE ",
     "HUNDRED STATERSxONE THOUSAND STATERSxTEN THOUSAND STATERSxFIFTY THOUSAND STATERSxTEN MNASrHE",
     "RAEUM ONE PLETHRONrTHESPIAN ONErHERMIONIAN ONErEPIDAUREAN TWOrTHESPIAN TWOrCYRENAIC TWO DRAC",
     "HMASrEPIDAUREAN TWO DRACHMASrTROEZENIAN FIVEzdTENzg ALTERNATE FORMrHERMIONIAN TENrMESSENIAN ",
     "TENrTHESPIAN TENzcHIRTYsROEZENIAN FIFTYzi ALTERNATE FORMrHERMIONIAN FIFTYrTHESPIAN FIFTYzbON",
     "E HUNDREDzbTHREE HUNDREDrEPIDAUREAN FIVE HUNDREDrTROEZENIAN FIVE HUNDREDsHESPIAN FIVE HUNDRE",
     "DrCARYSTIAN FIVE HUNDREDrNAXIAN FIVE HUNDREDrTHESPIAN ONE THOUSANDzbFIVE THOUSANDrDELPHIC FI",
     "VE MNASrSTRATIAN FIFTY MNASgONE HALF SIGNt ALTERNATE FORMgTWO THIRDS SIGNhHREE QUARTERS SIGN",
     "gYEAR SIGNgTALENT SIGNgDRACHMA SIGNgOBOL SIGNgTWO OBOLS SIGNhHREE OBOLS SIGNgFOUR OBOLS SIGN",
     "hIVE OBOLS SIGNgMETRETES SIGNgKYATHOS BASE SIGNgLITRA SIGNgOUNKIA SIGNgXESTES SIGNgARTABE SI",
     "GNiOURA SIGNgGRAMMA SIGNgTRYBLION BASE SIGNgZERO SIGNgONE QUARTER SIGNgSINUSOID SIGNgINDICTI",
     "ON SIGNaNOMISMA SIGN"]⟩,
   ⟨65936, ["aROMAN SEXTANS SIGNgUNCIA SIGNgSEMUNCIA SIGNiXTULA SIGNgDIMIDIA SEXTULA SIGNgSILIQUA ",
     "SIGNgDENARIUS SIGNgQUINARIUS SIGNgSESTERTIUS SIGNgDUPONDIUS SIGNgAS SIGNgCENTURIAL SIGNaASCI",
     "A SYMBOL"]⟩,
   ⟨65952, ["aGREEK SYMBOL TAU RHO"]⟩,
   ⟨66000, ["aPHAISTOS DISC SIGN PEDESTRIANuLUMED HEADtTATTOOED HEADtCAPTIVEuHILDtWOMANtHELMETtGAU",
     "NTLETtTIARAtARROWtBOWtSHIELDtCLUBtMANACLESvTTOCKtSAWtLIDtBOOMERANGtCARPENTRY PLANEtDOLIUMtCO",
     "MBtSLINGtCOLUMNtBEEHIVEtSHIPtHORNuIDEtBULLS LEGtCATtRAMtEAGLEtDOVEtTUNNYtBEEtPLANE TREEtVINE",
     "tPAPYRUStROSETTEtLILYtOX BACKtFLUTEtGRATERtSTRAINERuMALL AXEtWAVY BANDtCOMBINING OBLIQUE STR",
     "OKE"]⟩,
   ⟨66176, ["aLYCIAN LETTER AoEoBpHoGoDoIoWoZoTHoJoKoQoLoMoNoMMoNNoUoPoKKoRoSoTpToANoENoHoX"]⟩,
   ⟨66208, ["aCARIAN LETTER AoP2oDoLoUUUoRoLDoA2oQoBoMoOoD2oToSHq2poC-18oUoNNoXoNoTT2oPoSSoIoEoUUU",
     "UoKp2oNDoUUoGp2oSTq2oNGoIIoC-39oTToUUU2oRRoMBq2q3q4oLD2oE2oUUU3"]⟩,
   ⟨66272, ["aCOPTIC EPACT THOUSANDS MARKnDIGIT ONEtTWOuHREEtFOURuIVEtSIXuEVENtEIGHTtNINEnNUMBER T",
     "ENvWENTYvHIRTYuFORTYvIFTYuSIXTYvEVENTYuEIGHTYuNINETYuONE HUNDREDuTWO HUNDREDvHREE HUNDREDuFO",
     "UR HUNDREDvIVE HUNDREDuSIX HUNDREDvEVEN HUNDREDuEIGHT HUNDREDuNINE HUNDRED"]⟩,
   ⟨66304, ["aOLD ITALIC LETTER AsBEsKEsDEsEsVEsZEsHEsTHEsIsKAsELtMtNtSHsOsPEsSHEsKUsERtSsTEsUsEKS",
     "sPHEsKHEsEFtRSsCHEsIIsUUsESSlNUMERAL ONEtFIVEtTENtFIFTY"]⟩,
   ⟨66349, ["aOLD ITALIC LETTER YEsNORTHERN TSEsSOUTHERN TSEaGOTHIC LETTER AHSAoBAIRKANoGIBAoDAGSo",
     "AIHVUSoQAIRTHRAoIUJAoHAGLoTHIUTHoEISoKUSMAoLAGUSoMANNAoNAUTHSoJERoURUSoPAIRTHRAoNINETYoRAIDA",
     "oSAUILoTEIWSoWINJAoFAIHUoIGGWSoHWAIRoOTHALoNINE HUNDRED"]⟩,
   ⟨66384, ["aOLD PERMIC LETTER ANsBURsGAIsDOIsEsZHOIsDZHOIsZATAsDZITAsIsKOKEsLEIsMENOEsNENOEsVOOI",
     "sPEEIsREIsSIIsTAIsUsCHERYsSHOOIuCHOOIsYRYtERUsOtOsEFsHAsTSIUsVERsYERvItATsIEsYUtAsIAaCOMBINI",
     "NG OLD PERMIC LETTER ANzdDOIzdZATAzdNENOEzdSII"]⟩,
   ⟨66432, ["aUGARITIC LETTER ALPAqBETAqGAMLAqKHAqDELTAqHOqWOqZETAqHOTAqTETqYODqKAFqSHINqLAMDAqMEM",
     "qDHALqNUNqZUqSAMKAqAINqPUqSADEqQOPAqRASHAqTHANNAqGHAINqTOqIqUqSSU"]⟩,
   ⟨66463, ["aUGARITIC WORD DIVIDERaOLD PERSIAN SIGN ArIrUrKAsUrGAsUrXArCArJAsIrTAsUrDAsIsUrTHArPA",
     "rBArFArNAsUrMAsIsUrYArVAsIrRAsUrLArSArZArSHAsSArHA"]⟩,
   ⟨66504, ["aOLD PERSIAN SIGN AURAMAZDAAzc-2zcHArXSHAAYATHIYArDAHYAAUSHzb-2rBAGAsUUMISHmWORD DIVI",
     "DERmNUMBER ONEtTWOuENuWENTYtHUNDRED"]⟩,
   ⟨66560, ["aDESERET CAPITAL LETTER LONG IzdEzdAzeHzdOzeOxSHORT IzeEzeAzfHzeOzfOxAYxOWxWUxYEExHxP",
     "EExBEExTEExDEExCHEExJEExKAYxGAYxEFxVEExETHxTHEExESxZEExESHxZHEExERyLyMyNzaGxOIxEWiSMALL LETT",
     "ER LONG IzbEzbAzcHzbOzcOvSHORT IzcEzcAzdHzcOzdOvAYvOWvWUvYEEvHvPEEvBEEvTEEvDEEvCHEEvJEEvKAYv",
     "GAYvEFvVEEvETHvTHEEvESvZEEvESHvZHEEvERwLwMwNxGvOIvEWaSHAVIAN LETTER PEEPpTOTpKICKpFEEpTHIGHp",
     "SOqUREpCHURCHpYEApHUNGpBIBpDEADpGAGpVOWpTHEYpZOOpMEASUREpJUDGEpWOEpHA-HApLOLLpMIMEpIFpEGGpAS",
     "HqDOpONpWOOLpOUTpAHpROARpNUNpEATpAGEpICEpUPpOAKqOZEqILpAWEqREpORpAIRpERRpARRAYpEARpIANpYEWaO",
     "SMANYA LETTER ALEFpBApTApJApXApKHApDEELpRApSAqHIINpDHApCAYNpGApFApQAAFpKAAFpLAANpMIINpNUUNpW",
     "AWpHApYApApEpIpOpUpAApEEpOO"]⟩,
   ⟨66720, ["aOSMANYA DIGIT ZEROoONEoTWOpHREEoFOURpIVEoSIXpEVENoEIGHToNINE"]⟩,
   ⟨66736, ["aOSAGE CAPITAL LETTER AwIxNwHvBRAvCHAvEHCHAwwINvHAwYAvIvKAvEHKAvKYAvLAvMAvNAvOwINvPAv",
     "EHPAvSAwHAvTAvEHTAvTSAvEHTSAvTSHAvDHAvUvWAvKHAvGHAvZAwHA"]⟩,
   ⟨66776, ["aOSAGE SMALL LETTER AuIvNuHtBRAtCHAtEHCHAuuINtHAuYAtItKAtEHKAtKYAtLAtMAtNAtOuINtPAtEH",
     "PAtSAuHAtTAtEHTAtTSAtEHTSAtTSHAtDHAtUtWAtKHAtGHAtZAuHA"]⟩,
   ⟨66816, ["aELBASAN LETTER ApBEpCEqHEpDEpNDEpDHEpEIqpFEpGEqJEpHEpIpJEpKEpLEqLEpMEpNEqAqJEpOpPEpQ",
     "EpREqREpSEqHEpTEqHEpUpVEpXEpYpZEqHEpGHErAMMApKHE"]⟩,
   ⟨66864, ["aCAUCASIAN ALBANIAN LETTER ALTzbBETzbGIMzbDATzbEBzbZARLzbEYNzbZHILzbTASzbCHAzbYOWDzbZ",
     "HAzbIRBzbSHAzbLANzbINYAzbXEYNzbDYANzbCARzbJHOXzbKARzbLYITzbHEYTzbQAYzbAORzbCHOYzdIzcYAYzbMAQ",
     "zbQARzbNOWCzbDZYAYzbSHAKzbJAYNzbONzbTYAYzbFAMzbDZAYzbCHATzbPENzbGHEYSzbRATzbSEYKzbVEYZzbTIWR",
     "zbSHOYzbIWNzbCYAWzcAYNzbYAYDzbPIWRzbKIW"]⟩,
   ⟨66927, ["aCAUCASIAN ALBANIAN CITATION MARKaVITHKUQI CAPITAL LETTER AyBBEzaEyCEzaHEyDEzaHEyEIza",
     "yFEyGA"]⟩,
   ⟨66940, ["aVITHKUQI CAPITAL LETTER HAzaHAyIzaJEyJEyKAyLAzaLAyMEyNEzaJEyOyPEyQAyRE"]⟩,
   ⟨66956, ["aVITHKUQI CAPITAL LETTER SEzaHEyTEzaHEyUyVEyXE"]⟩,
   ⟨66964, ["aVITHKUQI CAPITAL LETTER YyZE"]⟩,
   ⟨66967, ["aVITHKUQI SMALL LETTER AwBBExEwCExHEwDExHEwEIxwFEwGA"]⟩,
   ⟨66979, ["aVITHKUQI SMALL LETTER HAxHAwIxJEwJEwKAwLAxLAwMEwNExJEwOwPEwQAwRE"]⟩,
   ⟨66995, ["aVITHKUQI SMALL LETTER SExHEwTExHEwUwVEwXE"]⟩,
   ⟨67003, ["aVITHKUQI SMALL LETTER YwZE"]⟩,
   ⟨67072, ["aLINEAR A SIGN AB001s2s3s4s5s6s7s8s9r10s1s3s6s7r20s1tFtMs2tFtMs3tMs4s6s7s8p028BpB029r",
     "30s1s4s7s8s9r40s1s4s5s6s7s8s9r50s1s3s4s5s6s7s8s9r60s1s5s6s7s9r70s3s4s6s7s8s9r80s1s2s5s6s7p10",
     "0-102pB118r20p120BpB122s3r31AtBp131CpB164r71r80s8r91p301r2r3r4r5r6r7r8r9AsBsCq10r1r2r3AsBsCr",
     "4r5r6r7r8r9q20r1r2r3r4r5r6r7r8r9q30r1r2r3r4r5r6r7r8r9q40r1r2r3r4r5r6r7r8r9q50r1r2r3r4r5r6r7r",
     "8r9q60r1r2r3r4r5r6r7r8r9q70r1p400-VASr1-VASr2-VASr3-VASr4-VASr5-VASr6-VASr7-VASr8-VASr9-VASq",
     "10-VASr1-VASr2-VASr3-VASr4-VASr5-VASr6-VASr7-VASr8-VASp501r2r3r4r5r6r8r9q10r1r2r3r5r6q20r1r3",
     "r4r5r6r7r8r9q30r1r2r4r5r6r7r8r9q40r1r2r5r7r8r9q50r1r2r3r4r5r6r7r9q63r4r5r6r8r9q70r1r2r3r4r5r",
     "6r7r8r9q80r1r2r3r4r5r6r7r8r9q91r2r4r5r6r8p600r1r2r3r4r6r8r9q10r1r2r3r4r5r6r7r8r9q20r1r2r3r4r",
     "6r7r8r9q34r7r8q40r2r3r4r5r6r8r9q51r2r3r4r5r6r7r8r9q60r1r2r3r4"]⟩,
   ⟨67392, ["aLINEAR A SIGN A701 Ar2 Br3 Dr4 Er5 Fr6 Hr7 Jr8 Kr9 Ls-2 L2t3 L3t4 L4t6 L6q10 Wr1 Xr2",
     " Yr3 OMEGAr4 ABBr5 BBr7 DDq26 EYYYq32 JE"]⟩,
   ⟨67424, ["aLINEAR A SIGN A800r1r2r3r4r5r6r7"]⟩,
   ⟨67456, ["aMODIFIER LETTER SMALL CAPITAL AArUPERSCRIPT TRIANGULAR COLONzdHALF TRIANGULAR COLONr",
     "MALL AEwCAPITAL BwB WITH HOOK"]⟩,
   ⟨67463, ["aMODIFIER LETTER SMALL DZ DIGRAPHzh WITH RETROFLEX HOOKznCURLxEZH DIGRAPHx WITH TAILz",
     "eHOOKzi AND TAILwREVERSED EwCLOSED REVERSED OPEN EwFENG DIGRAPHwRAMS HORNwCAPITAL GwG WITH H",
     "OOKwCAPITAL G WITH HOOKwH WITH STROKEwCAPITAL HwHENG WITH HOOKwDOTLESS J WITH STROKE AND HOO",
     "KwLS DIGRAPHxZ DIGRAPHx WITH BELTwCAPITAL L WITH BELTwL WITH RETROFLEX HOOK AND BELTxEZHzb W",
     "ITH RETROFLEX HOOKwTURNED Yzf WITH BELTwO WITH STROKEwCAPITAL OExLOSED OMEGAwQwTURNED R WITH",
     " LONG LEGzt AND RETROFLEX HOOKwR WITH TAILzeFISHHOOKwCAPITAL RwTC DIGRAPH WITH CURLxS DIGRAP",
     "Hzh WITH RETROFLEX HOOKxESH DIGRAPHx WITH RETROFLEX HOOKwV WITH RIGHT HOOK"]⟩,
   ⟨67506, ["aMODIFIER LETTER SMALL CAPITAL YqGLOTTAL STOP WITH STROKEqREVERSED GLOTTAL STOP WITH ",
     "STROKEqBILABIAL CLICKqDENTAL CLICKqLATERAL CLICKqALVEOLAR CLICKqRETROFLEX CLICK WITH RETROFL",
     "EX HOOKqSMALL S WITH CURL"]⟩,
   ⟨67584, ["aCYPRIOT SYLLABLE ArErIrOrUrJA"]⟩,
   ⟨67592, ["aCYPRIOT SYLLABLE JO"]⟩,
   ⟨67594, ["aCYPRIOT SYLLABLE KAsEsIsOsUrLAsEsIsOsUrMAsEsIsOsUrNAsEsIsOsUrPAsEsIsOsUrRAsEsIsOsUrS",
     "AsEsIsOsUrTAsEsIsOsUrWAsEsIsO"]⟩,
   ⟨67639, ["aCYPRIOT SYLLABLE XAsE"]⟩,
   ⟨67644, ["aCYPRIOT SYLLABLE ZA"]⟩,
   ⟨67647, ["aCYPRIOT SYLLABLE ZOaIMPERIAL ARAMAIC LETTER ALEPHyBETHyGIMELyDALETHyHEyWAWyZAYINyHET",
     "HyTETHyYODHyKAPHyLAMEDHyMEMyNUNySAMEKHyAYINyPEySADHEyQOPHyRESHySHINyTAW"]⟩,
   ⟨67671, ["aIMPERIAL ARAMAIC SECTION SIGNrNUMBER ONEyTWOzaHREEzaENzaWENTYyONE HUNDREDzdTHOUSANDy",
     "TEN THOUSANDaPALMYRENE LETTER ALEPHrBETHrGIMELrDALETHrHErWAWrZAYINrHETHrTETHrYODHrKAPHrLAMED",
     "HrMEMrFINAL NUNrNUNrSAMEKHrAYINrPErSADHErQOPHrRESHrSHINrTAWmFT-POINTING FLEURONkRIGHT-POINTI",
     "NG FLEURONkNUMBER ONErTWOsHREErFOURsIVErTENsWENTYaNABATAEAN LETTER FINAL ALEPHrALEPHrFINAL B",
     "ETHrBETHrGIMELrDALETHrFINAL HErHErWAWrZAYINrHETHrTETHrFINAL YODHrYODHrFINAL KAPHrKAPHrFINAL ",
     "LAMEDHrLAMEDHrFINAL MEMrMEMrFINAL NUNrNUNrSAMEKHrAYINrPErSADHErQOPHrRESHrFINAL SHINrSHINrTA",
     "W"]⟩,
   ⟨67751, ["aNABATAEAN NUMBER ONErTWOsHREErFOURkCRUCIFORM NUMBER FOURkNUMBER FIVErTENsWENTYrONE H",
     "UNDRED"]⟩,
   ⟨67808, ["aHATRAN LETTER ALEPHoBETHoGIMELoDALETH-RESHoHEoWAWoZAYNoHETHoTETHoYODHoKAPHoLAMEDHoME",
     "MoNUNoSAMEKHoAYNoPEoSADHEoQOPH"]⟩,
   ⟨67828, ["aHATRAN LETTER SHINoTAW"]⟩,
   ⟨67835, ["aHATRAN NUMBER ONEoFIVEoTENpWENTYoONE HUNDREDaPHOENICIAN LETTER ALFsBETsGAMLsDELTsHEs",
     "WAUsZAIsHETsTETsYODsKAFsLAMDsMEMsNUNsSEMKsAINsPEsSADEsQOFsROSHsSHINsTAUlNUMBER ONEsTENtWENTY",
     "sONE HUNDREDsTWOtHREE"]⟩,
   ⟨67871, ["aPHOENICIAN WORD SEPARATORaLYDIAN LETTER AoBoGoDoEoVoIoYoKoLoMoNoOoRoSSoToUoFoQoSoTTo",
     "ANoENoLYoNNoC"]⟩,
   ⟨67903, ["aLYDIAN TRIANGULAR MARK"]⟩,
   ⟨67968, ["aMEROITIC HIEROGLYPHIC LETTER AzeEzeIzeOzeYAzeWAzeBAzg-2zePAzeMAzeNAzg-2zfEzg-2zeRAzg",
     "-2zeLAzeKHAzeHHAzeSAzg-2zfEzeKAzeQAzeTAzg-2zfEzg-2zfOzeDAwSYMBOL VIDJzi-2jCURSIVE LETTER AyE",
     "yIyOyYAyWAyBAyPAyMAyNAzaEyRAyLAyKHAyHHAySAyARCHAIC SAySEyKAyQAyTAzaEzaOyDA"]⟩,
   ⟨68028, ["aMEROITIC CURSIVE FRACTION ELEVEN TWELFTHSzbONE HALFrLOGOGRAM RMTzbIMNrNUMBER ONEyTWO",
     "zaHREEyFOURzaIVEySIXzaEVENyEIGHTyNINEyTENzaWENTYzaHIRTYyFORTYzaIFTYySIXTYzaEVENTY"]⟩,
   ⟨68050, ["aMEROITIC CURSIVE NUMBER ONE HUNDREDyTWO HUNDREDzaHREE HUNDREDyFOUR HUNDREDzaIVE HUND",
     "REDySIX HUNDREDzaEVEN HUNDREDyEIGHT HUNDREDyNINE HUNDREDyONE THOUSANDyTWO THOUSANDzaHREE THO",
     "USANDyFOUR THOUSANDzaIVE THOUSANDySIX THOUSANDzaEVEN THOUSANDyEIGHT THOUSANDyNINE THOUSANDyT",
     "EN THOUSANDzaWENTY THOUSANDzaHIRTY THOUSANDyFORTY THOUSANDzaIFTY THOUSANDySIXTY THOUSANDzaEV",
     "ENTY THOUSANDyEIGHTY THOUSANDyNINETY THOUSANDyONE HUNDRED THOUSANDyTWO HUNDRED THOUSANDzaHRE",
     "E HUNDRED THOUSANDyFOUR HUNDRED THOUSANDzaIVE HUNDRED THOUSANDySIX HUNDRED THOUSANDzaEVEN HU",
     "NDRED THOUSANDyEIGHT HUNDRED THOUSANDyNINE HUNDRED THOUSANDrFRACTION ONE TWELFTHzbTWO TWELFT",
     "HSzcHREE TWELFTHSzbFOUR TWELFTHSzcIVE TWELFTHSzbSIX TWELFTHSzcEVEN TWELFTHSzbEIGHT TWELFTHSz",
     "bNINE TWELFTHSzbTEN TWELFTHSaKHAROSHTHI LETTER AlVOWEL SIGN IwUwVOCALIC R"]⟩,
   ⟨68101, ["aKHAROSHTHI VOWEL SIGN EwO"]⟩,
   ⟨68108, ["aKHAROSHTHI VOWEL LENGTH MARKlSIGN DOUBLE RING BELOWqANUSVARAqVISARGAlLETTER KAtHAsGA",
     "tHA"]⟩,
   ⟨68117, ["aKHAROSHTHI LETTER CAtHAsJA"]⟩,
   ⟨68121, ["aKHAROSHTHI LETTER NYAsTTAuHAsDDAuHAsNNAsTAtHAsDAtHAsNAsPAtHAsBAtHAsMAsYAsRAsLAsVAsSH",
     "AtSAtAsZAsHAsKKAsTTTHAvAsVHA"]⟩,
   ⟨68152, ["aKHAROSHTHI SIGN BAR ABOVEqCAUDAqDOT BELOW"]⟩,
   ⟨68159, ["aKHAROSHTHI VIRAMAlDIGIT ONErTWOsHREErFOURlNUMBER TENtWENTYsONE HUNDREDwTHOUSANDlFRAC",
     "TION ONE HALF"]⟩,
   ⟨68176, ["aKHAROSHTHI PUNCTUATION DOTxSMALL CIRCLExCIRCLEyRESCENT BARxMANGALAMxLOTUSxDANDAyOUBL",
     "E DANDAxLINES"]⟩,
   ⟨68192, ["aOLD SOUTH ARABIAN LETTER HEzaLAMEDHzaHETHzaMEMzaQOPHzaWAWzaSHINzaRESHzaBETHzaTAWzaSA",
     "TzaKAPHzaNUNzaKHETHzaSADHEzcMEKHzaFEzaALEFzbYNzaDHADHEzaGIMELzaDALETHzaGHAYNzaTETHzaZAYNzaDH",
     "ALETHzaYODHzaTHAWzcETHsNUMBER ONEzaFIFTYvERIC INDICATOReNORTH ARABIAN LETTER HEHzaLAMzaHAHza",
     "MEEMzaQAFzaWAWzaES-2zaREHzaBEHzaTEHzaES-1zaKAFzaNOONzaKHAHzaSADzaES-3zaFEHzaALEFzbINzaDADzaG",
     "EEMzaDALzaGHAINzaTAHzaZAINzaTHALzaYEHzaTHEHzaZAHsNUMBER ONEzaTENzbWENTY"]⟩,
   ⟨68288, ["aMANICHAEAN LETTER ALEPHsBETHtHETHsGIMELtHIMELsDALETHsHEsWAWlSIGN UDlLETTER ZAYINtHAY",
     "INsJAYINtHAYINsHETHsTETHsYODHsKAPHsXAPHsKHAPHsLAMEDHsDHAMEDHsTHAMEDHsMEMsNUNsSAMEKHsAYINtAYI",
     "NsPEsFEsSADHEsQOPHsXOPHsQHOPHsRESHsSHINtSHINsTAWlABBREVIATION MARK ABOVEzeBELOW"]⟩,
   ⟨68331, ["aMANICHAEAN NUMBER ONEsFIVEsTENtWENTYsONE HUNDREDlPUNCTUATION STARxFLEURONxDOUBLE DOT",
     " WITHIN DOTzaT WITHIN DOTzbxTWO DOTSxLINE FILLER"]⟩,
   ⟨68352, ["aAVESTAN LETTER AqAqOqAOqNqANqErEpEqEpOqOpIqIpUqUpKEpXEqYEqVEpGEqGEqHEpCEpJEpTEqHEpDE",
     "qHEpTTEpPEpFEpBEqHEpNGErYErVEqEqYEqNEpMEpHMEpYYEqEpVEpREpLEpSEpZEpSHEpZHEpSHYEqSHEpHE"]⟩,
   ⟨68409, ["aAVESTAN ABBREVIATION MARKaTINY TWO DOTS OVER ONE DOT PUNCTUATIONaSMALL TWO DOTS OVER",
     " ONE DOT PUNCTUATIONaLARGE TWO DOTS OVER ONE DOT PUNCTUATIONgONE DOT OVER TWO DOTS PUNCTUATI",
     "ONgTWO RINGS OVER ONE RING PUNCTUATIONgONE RING OVER TWO RINGS PUNCTUATIONaINSCRIPTIONAL PAR",
     "THIAN LETTER ALEPHzfBETHzfGIMELzfDALETHzfHEzfWAWzfZAYINzfHETHzfTETHzfYODHzfKAPHzfLAMEDHzfMEM",
     "zfNUNzfSAMEKHzfAYINzfPEzfSADHEzfQOPHzfRESHzfSHINzfTAW"]⟩,
   ⟨68440, ["aINSCRIPTIONAL PARTHIAN NUMBER ONEzfTWOzgHREEzfFOURzfTENzgWENTYzfONE HUNDREDzjTHOUSAN",
     "DqHLAVI LETTER ALEPHzeBETHzeGIMELzeDALETHzeHEzeWAW-AYIN-RESHzeZAYINzeHETHzeTETHzeYODHzeKAPHz",
     "eLAMEDHzeMEM-QOPHzeNUNzeSAMEKHzePEzeSADHEzfHINzeTAW"]⟩,
   ⟨68472, ["aINSCRIPTIONAL PAHLAVI NUMBER ONEzeTWOzfHREEzeFOURzeTENzfWENTYzeONE HUNDREDziTHOUSAND",
     "aPSALTER PAHLAVI LETTER ALEPHxBETHxGIMELxDALETHxHExWAW-AYIN-RESHxZAYINxHETHxYODHxKAPHxLAMEDH",
     "xMEM-QOPHxNUNxSAMEKHxPExSADHEyHINxTAW"]⟩,
   ⟨68505, ["aPSALTER PAHLAVI SECTION MARKqTURNED SECTION MARKqFOUR DOTS WITH CROSSzgDOT"]⟩,
   ⟨68521, ["aPSALTER PAHLAVI NUMBER ONExTWOyHREExFOURxTENyWENTYxONE HUNDRED"]⟩,
   ⟨68608, ["aOLD TURKIC LETTER ORKHON AsYENISEI AzcEsORKHON IsYENISEI IzbEsORKHON OzbEsYENISEI OE",
     "sORKHON ABsYENISEI ABsORKHON AEBsYENISEI AEBsORKHON AGsYENISEI AGsORKHON AEGsYENISEI AEGsORK",
     "HON ADsYENISEI ADsORKHON AEDzaEZsYENISEI EZsORKHON AYsYENISEI AYsORKHON AEYsYENISEI AEYsORKH",
     "ON AEKsYENISEI AEKsORKHON OEKsYENISEI OEKsORKHON ALsYENISEI ALsORKHON AELzaELTzbMzaANzbENsYE",
     "NISEI AENsORKHON ENTsYENISEI ENTsORKHON ENCsYENISEI ENCsORKHON ENYsYENISEI ENYzbANGsORKHON E",
     "NGsYENISEI AENGsORKHON EPzaOPzaICzaECsYENISEI ECsORKHON AQsYENISEI AQsORKHON IQsYENISEI IQsO",
     "RKHON OQsYENISEI OQsORKHON ARsYENISEI ARsORKHON AERzbSzbESzbSHsYENISEI ASHsORKHON ESHsYENISE",
     "I ESHsORKHON ATsYENISEI ATsORKHON AETsYENISEI AETsORKHON OTzaBASH"]⟩,
   ⟨68736, ["aOLD HUNGARIAN CAPITAL LETTER AzfAzeEBzeAMBzeECzfNCzfCSzfDzeANDzeEzeCLOSE EzeEEzfFzfG",
     "zgYzfHzeIzfIzeEJzfKzeAKzeUNKzeELzgYzfMzfNzgYzeOzfOzeNIKOLSBURG OEzeRUDIMENTA OEzeOEEzeEPzfMP",
     "zfRzeSHORT ERzeESzgZzfTzfNTzfTYzfCHzeUzfUzeNIKOLSBURG UEzeRUDIMENTA UEzeEVzfZzgSzfNT-SHAPED ",
     "SIGNzeUS"]⟩,
   ⟨68800, ["aOLD HUNGARIAN SMALL LETTER AzdAzcEBzcAMBzcECzdNCzdCSzdDzcANDzcEzcCLOSE EzcEEzdFzdGze",
     "YzdHzcIzdIzcEJzdKzcAKzcUNKzcELzeYzdMzdNzeYzcOzdOzcNIKOLSBURG OEzcRUDIMENTA OEzcOEEzcEPzdMPzd",
     "RzcSHORT ERzcESzeZzdTzdNTzdTYzdCHzcUzdUzcNIKOLSBURG UEzcRUDIMENTA UEzcEVzdZzeSzdNT-SHAPED SI",
     "GNzcUS"]⟩,
   ⟨68858, ["aOLD HUNGARIAN NUMBER ONEvFIVEvTENvFIFTYvONE HUNDREDzaTHOUSANDaHANIFI ROHINGYA LETTER",
     " AxBAxPAxTAyTAxJAxCAxHAxKHAxFAxDAyDAxRAyRAxZAxSAyHAxKAxGAxLAxMAxNAxWAxKINNA WAxYAxKINNA YAxN",
     "GAyYAxVAqVOWEL AwIwUwEwOqMARK SAKINvNA KHONNAqSIGN HARBAHAYvTAHALAxNAxSSI"]⟩,
   ⟨68912, ["aHANIFI ROHINGYA DIGIT ZEROwONEwTWOxHREEwFOURxIVEwSIXxEVENwEIGHTwNINE"]⟩,
   ⟨69216, ["aRUMI DIGIT ONElTWOmHREElFOURmIVElSIXmEVENlEIGHTlNINEfNUMBER TENnWENTYnHIRTYmFORTYnIF",
     "TYmSIXTYnEVENTYmEIGHTYmNINETYmONE HUNDREDmTWO HUNDREDnHREE HUNDREDmFOUR HUNDREDnIVE HUNDREDm",
     "SIX HUNDREDnEVEN HUNDREDmEIGHT HUNDREDmNINE HUNDREDfFRACTION ONE HALFsQUARTERsTHIRDoTWO THIR",
     "DS"]⟩,
   ⟨69248, ["aYEZIDI LETTER ELIFoBEoPEpHEoTHEoSEoCIMpHIMqHIMoHHAoXAoDALoZALoRApHAoZAoJAoSINpHINpAD",
     "oDADoTAoZEoEYNoXHEYNoFAoVAq ALTERNATE FORMoQAFoKAFpHAFoGAFoLAMoMIMoNUNoUMoWAWoOWoEWoHAYoYOTo",
     "ET"]⟩,
   ⟨69291, ["aYEZIDI COMBINING HAMZA MARKrMADDA MARKhHYPHENATION MARK"]⟩,
   ⟨69296, ["aYEZIDI LETTER LAM WITH DOT ABOVEoYOT WITH CIRCUMFLEX ABOVE"]⟩,
   ⟨69376, ["aOLD SOGDIAN LETTER ALEPHtFINAL ALEPHtBETHtFINAL BETHtGIMELtHEtFINAL HEtWAWtZAYINtHET",
     "HtYODHtKAPHtLAMEDHtMEMtNUNtFINAL NUNzd WITH VERTICAL TAILtSAMEKHtAYINuLTERNATE AYINtPEtSADHE",
     "tFINAL SADHEzf WITH VERTICAL TAILtRESH-AYIN-DALETHtSHINtTAWtFINAL TAWzd WITH VERTICAL TAILmN",
     "UMBER ONEtTWOuHREEtFOURuIVEtTENuWENTYuHIRTYtONE HUNDREDmFRACTION ONE HALFmLIGATURE AYIN-DALE",
     "TH"]⟩,
   ⟨69424, ["aSOGDIAN LETTER ALEPHpBETHpGIMELpHEpWAWpZAYINpHETHpYODHpKAPHpLAMEDHpMEMpNUNpSAMEKHpAY",
     "INpPEpSADHEpRESH-AYINpSHINpTAWpFETHpLESHiINDEPENDENT SHINiCOMBINING DOT BELOWsTWO DOTS BELOW",
     "sDOT ABOVEsTWO DOTS ABOVEsCURVE ABOVEyBELOWsHOOK ABOVExBELOWsLONG HOOK BELOWsRESH BELOWsSTRO",
     "KE BELOWiNUMBER ONEpTENqWENTYpONE HUNDREDiPUNCTUATION TWO VERTICAL BARSzm WITH DOTSuCIRCLE W",
     "ITH DOTuTWO CIRCLES WITH DOTSuHALF CIRCLE WITH DOT"]⟩,
   ⟨69488, ["aOLD UYGHUR LETTER ALEPHsBETHsGIMEL-HETHsWAWsZAYINsFINAL HETHsYODHsKAPHsLAMEDHsMEMsNU",
     "NsSAMEKHsPEsSADHEsRESHsSHINsTAWsLESHlCOMBINING DOT ABOVEzaBELOWvTWO DOTS ABOVEzfBELOWlPUNCTU",
     "ATION BARxTWO BARSzcDOTSxFOUR DOTS"]⟩,
   ⟨69552, ["aCHORASMIAN LETTER ALEPHsSMALL ALEPHsBETHsGIMELsDALETHsHEsWAWsCURLED WAWsZAYINsHETHsY",
     "ODHsKAPHsLAMEDHsMEMsNUNsSAMEKHsAYINsPEsRESHsSHINsTAWlNUMBER ONEsTWOtHREEsFOURsTENtWENTYsONE ",
     "HUNDRED"]⟩,
   ⟨69600, ["aELYMAIC LETTER ALEPHpBETHpGIMELpDALETHpHEpWAWpZAYINpHETHpTETHpYODHpKAPHpLAMEDHpMEMpN",
     "UNpSAMEKHpAYINpPEpSADHEpQOPHpRESHpSHINpTAWjIGATURE ZAYIN-YODH"]⟩,
   ⟨69632, ["aBRAHMI SIGN CANDRABINDUmANUSVARAmVISARGAmJIHVAMULIYAmUPADHMANIYAhLETTER ApAoIpIoUpUo",
     "VOCALIC RxRwLxLoEoAIoOoAUoKApHAoGApHAoNGAoCApHAoJApHAoNYAoTTAqHAoDDAqHAoNNAoTApHAoDApHAoNAoP",
     "ApHAoBApHAoMAoYAoRAoLAoVAoSHApSApAoHAoLLAoOLD TAMIL LLLAyRRAyNNNAhVOWEL SIGN AAsBHATTIPROLU ",
     "AAsItIsUtUsVOCALIC RzcRzbLzcLsEsAIsOsAUiIRAMAhDANDAiOUBLE DANDAhPUNCTUATION DOTvUBLE DOTtLIN",
     "EtCRESCENT BARtLOTUS"]⟩,
   ⟨69714, ["aBRAHMI NUMBER ONEoTWOpHREEoFOURpIVEoSIXpEVENoEIGHToNINEoTENpWENTYpHIRTYoFORTYpIFTYoS",
     "IXTYpEVENTYoEIGHTYoNINETYoONE HUNDREDsTHOUSANDhDIGIT ZEROnONEnTWOoHREEnFOURoIVEnSIXoEVENnEIG",
     "HTnNINEhSIGN OLD TAMIL VIRAMAhLETTER OLD TAMIL SHORT EzfOhVOWEL SIGN OLD TAMIL SHORT EzjOhLE",
     "TTER OLD TAMIL LLA"]⟩,
   ⟨69759, ["aBRAHMI NUMBER JOINERaKAITHI SIGN CANDRABINDUmANUSVARAmVISARGAhLETTER ApAoIpIoUpUoEoA",
     "IoOoAUoKApHAoGApHAoNGAoCApHAoJApHAoNYAoTTAqHAoDDAqDHAqHAoRHAoNNAoTApHAoDApHAoNAoPApHAoBApHAo",
     "MAoYAoRAoLAoVAoSHApSApAoHAhVOWEL SIGN AAsItIsUtUsEsAIsOsAUhSIGN VIRAMAmNUKTAhABBREVIATION SI",
     "GNhENUMERATION SIGNhNUMBER SIGNhSECTION MARKhDOUBLE SECTION MARKiANDAiOUBLE DANDAhVOWEL SIGN",
     " VOCALIC R"]⟩,
   ⟨69837, ["aKAITHI NUMBER SIGN ABOVE"]⟩,
   ⟨69840, ["aSORA SOMPENG LETTER SAHuTAHuBAHuCAHuDAHuGAHuMAHuNGAHuLAHuNAHuVAHuPAHuYAHuRAHuHAHuKAH",
     "uJAHuNYAHuAHuEEHuIHuUHuOHuEHuMAE"]⟩,
   ⟨69872, ["aSORA SOMPENG DIGIT ZEROtONEtTWOuHREEtFOURuIVEtSIXuEVENtEIGHTtNINE"]⟩,
   ⟨69888, ["aCHAKMA SIGN CANDRABINDUmANUSVARAmVISARGAhLETTER AAoIoUoEoKAApHAAoGAApHAAoNGAAoCAApHA",
     "AoJAApHAAoNYAAoTTAAqHAAoDDAAqHAAoNNAAoTAApHAAoDAApHAAoNAAoPAApHAAoBAApHAAoMAAoYYAApAAoRAAoLA",
     "AoWAAoSAAoHAAhVOWEL SIGN AsItIsUtUsEsAIsOsAUsOIhO MARKhAU MARKhVIRAMAhMAAYYAA"]⟩,
   ⟨69942, ["aCHAKMA DIGIT ZEROnONEnTWOoHREEnFOURoIVEnSIXoEVENnEIGHTnNINEhSECTION MARKhDANDAiOUBLE",
     " DANDAhQUESTION MARKhLETTER LHAAhVOWEL SIGN AAsEIhLETTER VAA"]⟩,
   ⟨69968, ["aMAHAJANI LETTER AqIqUqEqOqKArHAqGArHAqCArHAqJArHAqNYAqTTAsHAqDDAsHAqNNAqTArHAqDArHAq",
     "NAqPArHAqBArHAqMAqRAqLAqVAqSAqHAqRRAjSIGN NUKTAjABBREVIATION SIGNjSECTION MARKjLIGATURE SHR",
     "I"]⟩,
   ⟨70016, ["aSHARADA SIGN CANDRABINDUnANUSVARAnVISARGAiLETTER AqApIqIpUqUpVOCALIC RyRxLyLpEpAIpOp",
     "AUpKAqHApGAqHApNGApCAqHApJAqHApNYApTTArHApDDArHApNNApTAqHApDAqHApNApPAqHApBAqHApMApYApRApLAq",
     "LApVApSHAqSAqApHAiVOWEL SIGN AAtIuItUuUtVOCALIC RzdRzcLzdLtEtAItOtAUiSIGN VIRAMAnAVAGRAHAnJI",
     "HVAMULIYAnUPADHMANIYAiOMiDANDAjOUBLE DANDAiABBREVIATION SIGNiSEPARATORjANDHI MARKjIGN NUKTAi",
     "VOWEL MODIFIER MARKiEXTRA SHORT VOWEL MARKiSUTRA MARKiVOWEL SIGN PRISHTHAMATRA EiSIGN INVERT",
     "ED CANDRABINDUiDIGIT ZEROoONEoTWOpHREEoFOURpIVEoSIXpEVENoEIGHToNINEiEKAMiSIGN SIDDHAMiHEADST",
     "ROKEiCONTINUATION SIGNiSECTION MARK-1v2"]⟩,
   ⟨70113, ["aSINHALA ARCHAIC DIGIT ONEwTWOxHREEwFOURxIVEwSIXxEVENwEIGHTwNINEqNUMBER TENyWENTYyHIR",
     "TYxFORTYyIFTYxSIXTYyEVENTYxEIGHTYxNINETYxONE HUNDREDzcTHOUSAND"]⟩,
   ⟨70144, ["aKHOJKI LETTER ApAoIoUoEoAIoOoAUoKApHAoGApGApHAoNGAoCApHAoJApJA"]⟩,
   ⟨70163, ["aKHOJKI LETTER NYAoTTAqHAoDDAqHAoNNAoTApHAoDApDDApHAoNAoPApHAoBApBApHAoMAoYAoRAoLAoVA",
     "oSAoHAoLLAhVOWEL SIGN AAsItIsUsEsAIsOsAUhSIGN ANUSVARAmVIRAMAmNUKTAmSHADDAhDANDAiOUBLE DANDA",
     "hWORD SEPARATORhSECTION MARKhDOUBLE SECTION MARKhABBREVIATION SIGNhSIGN SUKUN"]⟩,
   ⟨70272, ["aMULTANI LETTER ApIpUpEpKAqHApGA"]⟩,
   ⟨70280, ["aMULTANI LETTER GHA"]⟩,
   ⟨70282, ["aMULTANI LETTER CAqHApJAqJA"]⟩,
   ⟨70287, ["aMULTANI LETTER NYApTTArHApDDArDArHApNNApTAqHApDAqHApNApPAqHApBA"]⟩,
   ⟨70303, ["aMULTANI LETTER BHApMApYApRApLApVApSApHApRRAqHAiSECTION MARK"]⟩,
   ⟨70320, ["aKHUDAWADI LETTER AsArIsIrUsUrErAIrOrAUrKAsHArGAsGAsHArNGArCAsHArJAsJAsHArNYArTTAtHAr",
     "DDAtDArRRArDDHArNNArTAsHArDAsHArNArPAsHArBAsBAsHArMArYArRArLArVArSHAsArHAkSIGN ANUSVARAkVOWE",
     "L SIGN AAvIwIvUwUvEvAIvOvAUkSIGN NUKTApVIRAMA"]⟩,
   ⟨70384, ["aKHUDAWADI DIGIT ZEROqONEqTWOrHREEqFOURrIVEqSIXrEVENqEIGHTqNINE"]⟩,
   ⟨70400, ["aGRANTHA SIGN COMBINING ANUSVARA ABOVEoANDRABINDUnANUSVARAnVISARGA"]⟩,
   ⟨70405, ["aGRANTHA LETTER AqApIqIpUqUpVOCALIC RxL"]⟩,
   ⟨70415, ["aGRANTHA LETTER EEpAI"]⟩,
   ⟨70419, ["aGRANTHA LETTER OOpAUpKAqHApGAqHApNGApCAqHApJAqHApNYApTTArHApDDArHApNNApTAqHApDAqHApN",
     "A"]⟩,
   ⟨70442, ["aGRANTHA LETTER PAqHApBAqHApMApYApRA"]⟩,
   ⟨70450, ["aGRANTHA LETTER LAqLA"]⟩,
   ⟨70453, ["aGRANTHA LETTER VApSHAqSAqApHA"]⟩,
   ⟨70459, ["aCOMBINING BINDU BELOWaGRANTHA SIGN NUKTAnAVAGRAHAiVOWEL SIGN AAtIuItUuUtVOCALIC Rzd",
     "R"]⟩,
   ⟨70471, ["aGRANTHA VOWEL SIGN EEtAI"]⟩,
   ⟨70475, ["aGRANTHA VOWEL SIGN OOtAUiSIGN VIRAMA"]⟩,
   ⟨70480, ["aGRANTHA OM"]⟩,
   ⟨70487, ["aGRANTHA AU LENGTH MARK"]⟩,
   ⟨70493, ["aGRANTHA SIGN PLUTAiLETTER VEDIC ANUSVARAvDOUBLE ANUSVARAqOCALIC RRxLLiVOWEL SIGN VOC",
     "ALIC LzdL"]⟩,
   ⟨70502, ["aCOMBINING GRANTHA DIGIT ZEROyONEyTWOzaHREEyFOURzaIVEySIX"]⟩,
   ⟨70512, ["aCOMBINING GRANTHA LETTER AzaKAzaNAzaVIzaPA"]⟩,
   ⟨70656, ["aNEWA LETTER AnAmInImUnUmVOCALIC RvRuLvLmEmAImOmAUmKAnHAmGAnHAmNGAoHAmCAnHAmJAnHAmNYA",
     "oHAmTTAoHAmDDAoHAmNNAmTAnHAmDAnHAmNAnHAmPAnHAmBAnHAmMAnHAmYAmRAnHAmLAnHAmWAmSHAnSAnAmHAfVOWE",
     "L SIGN AAqIrIqUrUqVOCALIC RzaRyLzaLqEqAIqOqAUfSIGN VIRAMAkCANDRABINDUkANUSVARAkVISARGAkNUKTA",
     "kAVAGRAHAkFINAL ANUSVARAfOMfSIDDHIfDANDAgOUBLE DANDAfCOMMAfGAP FILLERfABBREVIATION SIGNfDIGI",
     "T ZEROlONElTWOmHREElFOURmIVElSIXmEVENlEIGHTlNINEgOUBLE COMMAfPLACEHOLDER MARK"]⟩,
   ⟨70749, ["aNEWA INSERTION SIGNfSANDHI MARKfLETTER VEDIC ANUSVARAfSIGN JIHVAMULIYAkUPADHMANIYA"]⟩,
   ⟨70784, ["aTIRHUTA ANJIiLETTER AqApIqIpUqUpVOCALIC RyRxLyLpEpAIpOpAUpKAqHApGAqHApNGApCAqHApJAqH",
     "ApNYApTTArHApDDArHApNNApTAqHApDAqHApNApPAqHApBAqHApMApYApRApLApVApSHAqSAqApHAiVOWEL SIGN AAt",
     "IuItUuUtVOCALIC RzdRzcLzdLtEtSHORT EtAItOtSHORT OtAUiSIGN CANDRABINDUnANUSVARAnVISARGApRAMAn",
     "NUKTAnAVAGRAHAiGVANGiABBREVIATION SIGNiOM"]⟩,
   ⟨70864, ["aTIRHUTA DIGIT ZEROoONEoTWOpHREEoFOURpIVEoSIXpEVENoEIGHToNINE"]⟩,
   ⟨71040, ["aSIDDHAM LETTER AqApIqIpUqUpVOCALIC RyRxLyLpEpAIpOpAUpKAqHApGAqHApNGApCAqHApJAqHApNYA",
     "pTTArHApDDArHApNNApTAqHApDAqHApNApPAqHApBAqHApMApYApRApLApVApSHAqSAqApHAiVOWEL SIGN AAtIuItU",
     "uUtVOCALIC RzdR"]⟩,
   ⟨71096, ["aSIDDHAM VOWEL SIGN EtAItOtAUiSIGN CANDRABINDUnANUSVARAnVISARGApRAMAnNUKTAnSIDDHAMiDA",
     "NDAjOUBLE DANDAiSEPARATOR DOTsBARiREPETITION MARK-1y2y3iEND OF TEXT MARKiSECTION MARK WITH T",
     "RIDENT AND U-SHAPED ORNAMENTSznDOTTED CRESCENTSzbRAYS AND DOTTED CRESCENTSzrDOUBLE CRESCENTS",
     "zrTRIPLE CRESCENTSvDOUBLE RINGzh WITH RAYSvWITH DOUBLE CRESCENTSzbTRIPLE CRESCENTSzbQUADRUPL",
     "E CRESCENTSzbSEPTUPLE CRESCENTSzbCIRCLES AND RAYSznTWO ENCLOSURESznFOUR ENCLOSURESiLETTER TH",
     "REE-CIRCLE ALTERNATE IqWO-CIRCLE ALTERNATE IzmIpALTERNATE UiVOWEL SIGN ALTERNATE UzfU"]⟩,
   ⟨71168, ["aMODI LETTER AnAmInImUnUmVOCALIC RvRuLvLmEmAImOmAUmKAnHAmGAnHAmNGAmCAnHAmJAnHAmNYAmTT",
     "AoHAmDDAoHAmNNAmTAnHAmDAnHAmNAmPAnHAmBAnHAmMAmYAmRAmLAmVAmSHAnSAnAmHAmLLAfVOWEL SIGN AAqIrIq",
     "UrUqVOCALIC RzaRyLzaLqEqAIqOqAUfSIGN ANUSVARAkVISARGAmRAMAkARDHACANDRAfDANDAgOUBLE DANDAfABB",
     "REVIATION SIGNfSIGN HUVA"]⟩,
   ⟨71248, ["aMODI DIGIT ZEROlONElTWOmHREElFOURmIVElSIXmEVENlEIGHTlNINE"]⟩,
   ⟨71264, ["aMONGOLIAN BIRGA WITH ORNAMENTkROTATED BIRGAkDOUBLE BIRGA WITH ORNAMENTkTRIPLE BIRGA ",
     "WITH ORNAMENTkBIRGA WITH DOUBLE ORNAMENTkROTATED BIRGA WITH ORNAMENTzeDOUBLE ORNAMENTkINVERT",
     "ED BIRGAy WITH DOUBLE ORNAMENTkSWIRL BIRGAv WITH ORNAMENTzcDOUBLE ORNAMENTkTURNED SWIRL BIRG",
     "A WITH DOUBLE ORNAMENT"]⟩,
   ⟨71296, ["aTAKRI LETTER AoAnIoInUoUnEnAInOnAUnKAoHAnGAoHAnNGAnCAoHAnJAoHAnNYAnTTApHAnDDApHAnNNA",
     "nTAoHAnDAoHAnNAnPAoHAnBAoHAnMAnYAnRAnLAnVAnSHAoAnHAnRRAgSIGN ANUSVARAlVISARGAgVOWEL SIGN AAr",
     "IsIrUsUrErAIrOrAUgSIGN VIRAMAlNUKTAgLETTER ARCHAIC KHAgABBREVIATION SIGN"]⟩,
   ⟨71360, ["aTAKRI DIGIT ZEROmONEmTWOnHREEmFOURnIVEmSIXnEVENmEIGHTmNINE"]⟩,
   ⟨71424, ["aAHOM LETTER KAnHAmNGAnAmTAmALTERNATE TAmPAnHAmBAmMAmJAmCHAmTHAmRAmLAmSAmNYAmHAmAmDAn",
     "HAmGAmALTERNATE GAmGHAmBHAmJHAmALTERNATE BA"]⟩,
   ⟨71453, ["aAHOM CONSONANT SIGN MEDIAL LAzcRAzcLIGATING RAfVOWEL SIGN ArAqIrIqUrUqEqAWqOqAIrMfSI",
     "GN KILLER"]⟩,
   ⟨71472, ["aAHOM DIGIT ZEROlONElTWOmHREElFOURmIVElSIXmEVENlEIGHTlNINEfNUMBER TENnWENTYfSIGN SMAL",
     "L SECTIONlECTIONkRULAIgYMBOL VIfLETTER CAmTTAoHAmDDAoHAmNNAmLLA"]⟩,
   ⟨71680, ["aDOGRA LETTER AoAnIoInUoUnEnAInOnAUnKAoHAnGAoHAnNGAnCAoHAnJAoHAnNYAnTTApHAnDDApHAnNNA",
     "nTAoHAnDAoHAnNAnPAoHAnBAoHAnMAnYAnRAnLAnVAnSHAoSAoAnHAnRRAgVOWEL SIGN AArIsIrUsUrVOCALIC Rzb",
     "RrErAIrOrAUgSIGN ANUSVARAlVISARGAnRAMAlNUKTAgABBREVIATION SIGN"]⟩,
   ⟨71840, ["aWARANG CITI CAPITAL LETTER NGAAzcAzcWIzcYUzdAzdOzcIIzcUUzcEzcOzcANGzcGAzcKOzcENYzcYU",
     "JzcUCzcENNzcODDzcTTEzcNUNGzcDAzcATzdMzcBUzcPUzcHIYOzdOLOzeRRzdARzcSSUUzdIIzcVIYOmSMALL LETTE",
     "R NGAAzaAzaWIzaYUzbAzbOzaIIzaUUzaEzaOzaANGzaGAzaKOzaENYzaYUJzaUCzaENNzaODDzaTTEzaNUNGzaDAzaA",
     "TzbMzaBUzaPUzaHIYOzbOLOzcRRzbARzaSSUUzbIIzaVIYOmDIGIT ZEROsONEsTWOtHREEsFOURtIVEsSIXtEVENsEI",
     "GHTsNINEmNUMBER TENuWENTYuHIRTYtFORTYuIFTYtSIXTYuEVENTYtEIGHTYtNINETY"]⟩,
   ⟨71935, ["aWARANG CITI OMaDIVES AKURU LETTER AuAtIuItUuUtE"]⟩,
   ⟨71945, ["aDIVES AKURU LETTER O"]⟩,
   ⟨71948, ["aDIVES AKURU LETTER KAuHAtGAuHAtNGAtCAuHAtJA"]⟩,
   ⟨71957, ["aDIVES AKURU LETTER NYAtTTA"]⟩,
   ⟨71960, ["aDIVES AKURU LETTER DDAvHAtNNAtTAuHAtDAuHAtNAtPAuHAtBAuHAtMAtYAuYAtRAtLAtVAtSHAuSAuAt",
     "HAtLLAtZAmVOWEL SIGN AAxIyIxUyUxE"]⟩,
   ⟨71991, ["aDIVES AKURU VOWEL SIGN AIxO"]⟩,
   ⟨71995, ["aDIVES AKURU SIGN ANUSVARArCANDRABINDUrHALANTAmVIRAMAmPREFIXED NASAL SIGNmMEDIAL YAmI",
     "NITIAL RAmMEDIAL RAmSIGN NUKTAmDOUBLE DANDAmGAP FILLERmEND OF TEXT MARK"]⟩,
   ⟨72016, ["aDIVES AKURU DIGIT ZEROsONEsTWOtHREEsFOURtIVEsSIXtEVENsEIGHTsNINE"]⟩,
   ⟨72096, ["aNANDINAGARI LETTER AuAtIuItUuUtVOCALIC RzdR"]⟩,
   ⟨72106, ["aNANDINAGARI LETTER EtAItOtAUtKAuHAtGAuHAtNGAtCAuHAtJAuHAtNYAtTTAvHAtDDAvHAtNNAtTAuHA",
     "tDAuHAtNAtPAuHAtBAuHAtMAtYAtRAtLAtVAtSHAuSAuAtHAtLLAtRRAmVOWEL SIGN AAxIyIxUyUxVOCALIC Rzh",
     "R"]⟩,
   ⟨72154, ["aNANDINAGARI VOWEL SIGN ExAIxOxAUmSIGN ANUSVARArVISARGAtRAMArAVAGRAHArSIDDHAMmHEADSTR",
     "OKEmVOWEL SIGN PRISHTHAMATRA E"]⟩,
   ⟨72192, ["aZANABAZAR SQUARE LETTER ArVOWEL SIGN IzdUEzezdEzdOEzezdAIzeUzdREVERSED IxLENGTH MARK",
     "rLETTER KAzaHAyGAzaHAyNGAyCAzaHAyJAyNYAyTTAzbHAyDDAzbHAyNNAyTAzaHAyDAzaHAyNAyPAzaHAyBAzaHAyM",
     "AyTSAzbHAyDZAzbHAyZHAzaAy-AyYAyRAyLAyVAySHAzaSAzaAyHAyKSSArFINAL CONSONANT MARKrSIGN VIRAMAw",
     "CANDRABINDUzi WITH ORNAMENTzd WITH ORNAMENTwANUSVARAwVISARGArCLUSTER-INITIAL LETTER RAzaFINA",
     "L LETTER YAznRAznLAznVArINITIAL HEAD MARKrCLOSING HEAD MARKrMARK TSHEGwSHADwDOUBLE SHADwLONG",
     " TSHEGrINITIAL DOUBLE-LINED HEAD MARKrCLOSING DOUBLE-LINED HEAD MARKrSUBJOINER"]⟩,
   ⟨72272, ["aSOYOMBO LETTER AiVOWEL SIGN ItUEutEtOuEtAIuUtVOCALIC RzcLoLENGTH MARKiLETTER KAqHApG",
     "AqHApNGApCAqHApJAqHApNYApTTArHApDDArHApNNApTAqHApDAqHApNApPAqHApBAqHApMApTSArHApDZApZHAqAp-A",
     "pYApRApLApVApSHAqSAqApHApKSSAiSIGN JIHVAMULIYAnUPADHMANIYAiCLUSTER-INITIAL LETTER RAzgLAzgSH",
     "AzhAiFINAL CONSONANT SIGN GzeKzeNGzeDzeNzeBzeMzeRzeLzeSHzfze-AiSIGN ANUSVARAnVISARGAiGEMINAT",
     "ION MARKiSUBJOINERiMARK TSHEGnSHADnDOUBLE SHADnPLUTAiHEAD MARK WITH MOON AND SUN AND TRIPLE ",
     "FLAMEzpFLAMEzkiTERMINAL MARK-1w2"]⟩,
   ⟨72368, ["aCANADIAN SYLLABICS NATTILIK HIzfIzeOzfOzeAzfAzdSHRIzhIzgOzhOzgAzhAtSPEvIvOvAaPAU CIN",
     " HAU LETTER PAtKAtLAtMAtDAtZAtVAtNGAtHAtGAtKHAtSAtBAtCAtTAuHAtNAtPHAtRAtFAtCHAtAtEtItOtUuAtI",
     "AtFINAL PzaKzaTzaMzaNzaLzaWzaNGzaYmRISING TONE LONGxmSANDHI GLOTTAL STOPmRISING TONE LONG FI",
     "NALyFINALmSANDHI GLOTTAL STOP FINALtTONE LONGxx LONG FINALyFINALmMID-LEVEL TONEmGLOTTAL STOP",
     " VARIANTmMID-LEVEL TONE LONG FINALzcFINALmLOW-FALLING TONE LONGzdmGLOTTAL STOPmLOW-FALLING T",
     "ONE LONG FINALzeFINALmGLOTTAL STOP FINAL"]⟩,
   ⟨72704, ["aBHAIKSUKI LETTER AsArIsIrUsUrVOCALIC RzbRzaL"]⟩,
   ⟨72714, ["aBHAIKSUKI LETTER ErAIrOrAUrKAsHArGAsHArNGArCAsHArJAsHArNYArTTAtHArDDAtHArNNArTAsHArD",
     "AsHArNArPAsHArBAsHArMArYArRArLArVArSHAsSAsArHAkVOWEL SIGN AAvIwIvUwUvVOCALIC RzfRzeL"]⟩,
   ⟨72760, ["aBHAIKSUKI VOWEL SIGN EvAIvOvAUkSIGN CANDRABINDUpANUSVARApVISARGArRAMApAVAGRAHAkDANDA",
     "lOUBLE DANDAkWORD SEPARATORkGAP FILLER-1v2"]⟩,
   ⟨72784, ["aBHAIKSUKI DIGIT ZEROqONEqTWOrHREEqFOURrIVEqSIXrEVENqEIGHTqNINEkNUMBER ONErTWOsHREErF",
     "OURsIVErSIXsEVENrEIGHTrNINErTENsWENTYsHIRTYrFORTYsIFTYrSIXTYsEVENTYrEIGHTYrNINETYkHUNDREDS U",
     "NIT MARK"]⟩,
   ⟨72816, ["aMARCHEN HEAD MARKiMARK SHADiLETTER KAqHApGApNGApCAqHApJApNYApTAqHApDApNApPAqHApBApMA",
     "pTSArHApDZApWApZHAqAp-ApYApRApLApSHAqApHApA"]⟩,
   ⟨72850, ["aMARCHEN SUBJOINED LETTER KAzbHAzaGAzaNGAzaCAzbHAzaJAzaNYAzaTAzbHAzaDAzaNAzaPAzbHAzaB",
     "AzaMAzaTSAzcHAzaDZAzaWAzaZHAzbA"]⟩,
   ⟨72873, ["aMARCHEN SUBJOINED LETTER YAzaRAzaLAzaSHAzbAzaHAzaAiVOWEL SIGN AAtItUtEtOiSIGN ANUSVA",
     "RAnCANDRABINDU"]⟩,
   ⟨72960, ["aMASARAM GONDI LETTER AwAvIwIvUwUvE"]⟩,
   ⟨72968, ["aMASARAM GONDI LETTER AIvO"]⟩,
   ⟨72971, ["aMASARAM GONDI LETTER AUvKAwHAvGAwHAvNGAvCAwHAvJAwHAvNYAvTTAxHAvDDAxHAvNNAvTAwHAvDAwH",
     "AvNAvPAwHAvBAwHAvMAvYAvRAvLAvVAvSHAwSAwAvHAvLLAvKSSAvJNYAvTRAoVOWEL SIGN AAzaIzbIzaUzbUzaVOC",
     "ALIC R"]⟩,
   ⟨73018, ["aMASARAM GONDI VOWEL SIGN E"]⟩,
   ⟨73020, ["aMASARAM GONDI VOWEL SIGN AIzaO"]⟩,
   ⟨73023, ["aMASARAM GONDI VOWEL SIGN AUoSIGN ANUSVARAtVISARGAtNUKTAtCANDRAtHALANTAoVIRAMAoREPHAp",
     "A-KARA"]⟩,
   ⟨73040, ["aMASARAM GONDI DIGIT ZEROuONEuTWOvHREEuFOURvIVEuSIXvEVENuEIGHTuNINE"]⟩,
   ⟨73056, ["aGUNJALA GONDI LETTER AwAvIwIvUwU"]⟩,
   ⟨73063, ["aGUNJALA GONDI LETTER EEvAI"]⟩,
   ⟨73066, ["aGUNJALA GONDI LETTER OOvAUvYAvVAvBAwHAvMAvKAwHAvTAwHAvLAvGAwHAvDAwHAvNAvCAwHAvTTAxHA",
     "vLLAvJAwHAvDDAxHAvNGAvPAwHAvHAvRAvSAoVOWEL SIGN AAzaIzbIzaUzbU"]⟩,
   ⟨73104, ["aGUNJALA GONDI VOWEL SIGN EEzaAI"]⟩,
   ⟨73107, ["aGUNJALA GONDI VOWEL SIGN OOzaAUoSIGN ANUSVARAtVISARGAoVIRAMAoOM"]⟩,
   ⟨73120, ["aGUNJALA GONDI DIGIT ZEROuONEuTWOvHREEuFOURvIVEuSIXvEVENuEIGHTuNINE"]⟩,
   ⟨73440, ["aMAKASAR LETTER KApGApNGApPApBApMApTApDApNApCApJApNYApYApRApLApVApSApAiANGKAiVOWEL SI",
     "GN ItUtEtOiPASSIMBANGiEND OF SECTION"]⟩,
   ⟨73648, ["aLISU LETTER YHA"]⟩,
   ⟨73664, ["aTAMIL FRACTION ONE THREE-HUNDRED-AND-TWENTIETHtONE-HUNDRED-AND-SIXTIETHtEIGHTIETHtSI",
     "XTY-FOURTHtFORTIETHtTHIRTY-SECONDpTHREE EIGHTIETHSvSIXTY-FOURTHSpONE TWENTIETHtSIXTEENTH-1ze",
     "2tTENTHtEIGHTHpTHREE TWENTIETHSvSIXTEENTHSpONE FIFTHtQUARTERtHALF-1y2pTHREE QUARTERSpDOWNSCA",
     "LING FACTOR KIIZHgSIGN NELlCEVITUlAAZHAAKKUlUZHAKKUlMUUVUZHAKKUlKURUNIlPATHAKKUlMUKKURUNIlKA",
     "ACUlPANAMmONlVARAAKANlPAARAMlKUZHIlVELIgWET CULTIVATION SIGNgDRY CULTIVATION SIGNgLAND SIGNg",
     "SALT PAN SIGNgTRADITIONAL CREDIT SIGNsNUMBER SIGNgCURRENT SIGNgAND ODD SIGNgSPENT SIGNgTOTAL",
     " SIGNgIN POSSESSION SIGNgSTARTING FROM SIGNhIGN MUTHALIYAlVAKAIYARAA"]⟩,
   ⟨73727, ["aTAMIL PUNCTUATION END OF TEXTaCUNEIFORM SIGN Aq TIMES AxBADxGAN2 TENUxHAxIGIxLAGAR G",
     "UNUxMUSHxSAGq2qBr TIMES ASH2yDUN3 GUNUyGALzbN2 TENUyHAyIGI GUNUzaMINyLAGABySHESHyU PLUS U PL",
     "US UsGUNUr2s TIMES BALAGzaGAN2 TENUzaME PLUS ENzaSHA3zaTAK4qDqKr TIMES ERIN2ySHITA PLUS GISH",
     "qLr TIMES ALyDIM2yGISHyHAyKAD3zaIySHEyUSHrANrEPHqMARt TIMES SHEqNr OVER ANsTHREE TIMESsPLUS ",
     "NAGA OPPOSING AN PLUS NAGAzdSQUAREDrSHEqPINqRADt TIMES KURrKABqSAL2rHs ZIDA TENUtKABA TENUtO",
     "VER ASH TUG2 OVER TUG2 TUG2 OVER TUG2 PAPzdOVER ASHzl CROSSING ASH OVER ASH OVER ASHs2sGABpB",
     "ArDrG3rHAR2rLs OVER BALsAGrRsA2qIr TIMES AyGARyIGI GUNUqUr OVER BU ABzbUNsCROSSING BUrLUGu O",
     "VER BULUGrRs2pDArGs KISIM5 TIMES A PLUS MASHziMARzhBALAGziIzhGAzj PLUS MASHziIzjR2ziUDzhHAzh",
     "IRzj PLUS LUzhKAKzhLAziUzj PLUS MASH2zjMzhNEzhPAP PLUS PAPzhSIzhTAK4zhU2 PLUS GIR2ziSHrMrRsA",
     "3t4qIrBrMs TIMES SHEs2rNs KASKAL U GUNU DISHrSHqUr OVER DUsGUNUsSHESHIGrBs TIMES ESH2s2rGsUD",
     "rHrNs3t GUNUy GUNUs4rR2pEq TIMES PAPrOVER E NUN OVER NUNq2r TIMES A PLUS HA PLUS DAyGARyMIyS",
     "ALzaHEyUqDINqGIRqLqNr TIMES GAN2zd TENUyMEsCROSSING ENsOPPOSING ENsSQUAREDqRENrIN2qSH2qZENt ",
     "TIMES Azc PLUS LALzl TIMES LALzcNzbBADzbDUN3 GUNUzk GUNUzbHAzd GUNUzbIGI GUNUzbKASKALzh SQUA",
     "REDzcU3zbLAzdL TIMES LALzcIzcUzbU2zcDpGAr GUNUr2s TIMES A PLUS DA PLUS HAzhHAzhIGIzbB2 TENU ",
     "PLUS TABzbNzbSHzd2 PLUS GALzaBADzcR PLUS RAzbURzd PLUS RAzaDAzbIzcM TIMES SHEzbUBzaELzc PLUS",
     " LAzbNzc TIMES GAN2 TENUzaGAN2 TENUzcRzbIzc4zd PLUS AzcR2 PLUS SUzaHA PLUS LU PLUS ESH2zcLzd",
     " PLUS LAzbI PLUS LIzbUB2zaIGI GUNUzbSH PLUS HU PLUS ASHzaKAKzcSKALzbIDzd PLUS LALzbU3 PLUS A",
     "NzaLAzaME PLUS ENzbIzaNUNzd OVER NUNzaPAzaSALzcRzbHEzd PLUS TURzcIDzbUMzaTAK4zaUzbDzc PLUS D",
     "UtOVER GA2rBAt CROSSING GABArDs OVER GAD GAR OVER GARrLs GAD OVER GAD GAR OVER GARsAMrMrNs2t",
     " TENUuOVER GAN2uCROSSING GAN2rRs3rSHANqESHTINw TIMES KURqIr TIMES EyUsCROSSING GIr4s OVER GI",
     "4tCROSSING GI4rDIMrR2t GUNUs3t TIMES A PLUS IGIzbGAN2 TENUzbIGIzbLU PLUS IGIzbPArSALsHt CROS",
     "SING GISHuTIMES BADzbTAK4vENUqUr CROSSING GUr2s TIMES KAKzd TIMES IGI GUNUzaNUNzaSAL PLUS TU",
     "G2tGUNUrDs TIMES A PLUS KURzaKURtOVER GUD LUGALrLrMs TIMES SHErRs7sUNtSHpHAr TENUsGUNUrLqIr ",
     "TIMES ASHzc2yBADyDISHyGADyKINyNUNySHEyUqUrB2t TIMES ANzbHALzbKASKALzbLISHzbUDrL2pIq AqBqDIMt",
     " OVER IDIM BURzfSQUAREDqGrIs DIBtRItOVER IGI SHIR OVER SHIR UD OVER UDtGUNUqLr TIMES GAN2 TE",
     "NUr2qMr TIMES TAK4sCROSSING IMsOPPOSING IMsSQUAREDrINqNqRqSHpKAr TIMES AzaDzb PLUS KU3zaSH2y",
     "BADzbLAGzbRzaIyERIN2zaSH2yGAzbLzbN2 TENUzbRzc PLUS SHA3 PLUS AzaIzbR2zbSH PLUS SARzeCROSSING",
     " GISHzaUzbR7yIGIzaMyKAKzaIzbDyLIzaUyMEzb PLUS DUzhGIzhTEzaIzb PLUS NUNUZyNEzaUNyPIyRUySAzbRz",
     "aHAzbEzbIDzbUzaIGzaUHURyTARyUza2zaDzaMUM TIMES PAzaSHyZIr2s CROSSING KA2rBrD2s3s4s5t OVER KA",
     "D5rKs TIMES IGI GUNUrLs TIMES BADtCROSSING KALrM2s4rSKALv LAGAB TIMES U OVER LAGAB TIMES UwO",
     "VER KASKAL LAGAB TIMES U OVER LAGAB TIMES UqESH2qIr TIMES BADyUzaDrDrNrSALsHsIM5v OVER KISIM",
     "5qUr OVER HI TIMES ASH2 KU OVER HI TIMES ASH2r3r4s VARIANT FORMr7rLs GUNUrNrRs OPPOSING KURr",
     "SHU2qWU318pLArGABu TIMES Azd PLUS DA PLUS HAzjGARzjLALzdLzdNzdSH ZIDA TENUzcBADzdIzcDARzcENz",
     "cGAzeRzdUDzf PLUS GUDzcHAzeLzdI TIMES NUNzcIGI GUNUzdMze PLUS HAzkLUzcKIzeNzdU3zeLzf PLUS HI",
     " PLUS AzcLAGABzdISHzdUzeLzcMEze PLUS ENzdUSHzcNEzcSHE PLUS SUMzeITA PLUS GISH PLUS ERIN2zsTE",
     "NUzeU2zg PLUS SHU2zdUMzcTAGzeK4zdE PLUS A PLUS SU PLUS NAzcUzd PLUS AzjU PLUS Uzd2 PLUS ASHz",
     "dDzdSHvSQUAREDtRu TIMES SHEzf PLUS SUMvGUNUza OVER LAGAR GUNU SHErHSHUrLs TIMES LALrMs TIMES",
     " KURzd PLUS RUqIrLrMMU2rSHqUr TIMES BADr2s TIMES ALzaBADzaESH2ze TENUzaGAN2 TENUzaHI TIMES B",
     "ADzaIMzaKAD2zd3ze PLUS ASHzbIzaLA PLUS ASHzcGABzaME PLUS ENzaNEzbUzaSI PLUS ASHzcK2 PLUS BUz",
     "aTUG2uENUtCROSSING LU2tOPPOSING LU2tSQUAREDuHESHIGr3rGALu OVER LUGALwPPOSING LUGALvSHESHIGrH",
     "rLrMs OVER LUMzc GAR OVER GARpMAr TIMES TAK4sGUNUr2rHrRrSHt2qErSqIrNqUr OVER MUrGs GUNUrNSUB",
     "rRGU2rSHt TIMES AzbKURzbZAuOVER MUSHze TIMES A PLUS NAuCROSSING MUSHt3u TIMES Azd PLUS DIzcD",
     "IvGUNUpNAr2rGAt INVERTEDuTIMES SHU TENUuOPPOSING NAGAtRrM NUTILLUss2qEr TIMES AyUDsSHESHIGqI",
     "r TIMES Er2rMs TIMES GAN2 TENUzcR PLUS GAN2 TENUrNDA2v TIMES ANzeSHzg PLUS ASHzdGUDzdME PLUS",
     " GAN2 TENUzdNEzeUNzdSHEzg PLUS A ANznSHzp PLUS ASHzdU2 PLUS ASHzeSHrSAGqUr11rNs LAGAR TIMES ",
     "GARzgMASHzgSALzj OVER NUN LAGAR TIMES SALzgUSHtTENUtOVER NUNtCROSSING NUNzg LAGAR OVER LAGAR",
     "sUZu AB2 TIMES ASHGABzgBIzgDUGzgGUDzgIGI GUNUzgKAD3zgLAzgNEzgSILA3zgU2vKISIM5 TIMES BIzl UpP",
     "ArDrNrPqESH2qIr TIMES AzaByBIzaUyEyIzaByUza2sCROSSING PIrRIGu TIMES KALzcUDzcZAvOPPOSING PIR",
     "IGpRArBqIqUpSArG NUTILLUss TIMES AzaDUzcBzaHAzaKAKzbURzaLUMzaMIzaNUNzaSALzbHIDzaTABzaU2zbBzb",
     "MzbRzbSHtOVER SAGtGUNUrLs LAGAB TIMES ASH2rNGA2rRqHAs3t TIMES AzbBADzbGISHzbNEzbSHU2zbTURzbU",
     "zc PLUS As6sB6sR2rEs HUtOVER SHE GAD OVER GAD GAR OVER GARzdTAB OVER TAB GAR OVER GARsG9sNsS",
     "Hu2uLAMrIDt TIMES AzbIMsMt TIMES AzbBALzcULUGzbDINzbGARzbIGIze GUNUzbKUSHU2zbLULzbMUGzbSALsN",
     "IGsRt TENUuOVER SHIR BUR OVER BURsTArUs OVER INVERTED SHUs2sBURqIr GUNUrGs4t OVER SIG4 SHU2r",
     "K2rLA3qUr OVER SUrDs2rHURrMsASHrRs9pTAr ASTERISKsTIMES HIyMIsGUNUrBs OVER TAB NI OVER NI DIS",
     "H OVER DISHtSQUAREDrGs TIMES BIzaGUDzaSHEzcUzaTUG2zaUDrK4rRqEr GUNUqIr TENUrLrRs TIMES TAK4t",
     "OVER TIRzc GAD OVER GAD GAR OVER GARqUrG2rKrMrRs OVER TUR ZA OVER ZApUq GUDrU UrOVER U PA OV",
     "ER PA GAR OVER GARySUR OVER SURyU REVERSED OVER U REVERSEDq2qBqDr KUSHU2sTIMES BADyMIyU PLUS",
     " U PLUS Uzo GUNUsGUNUsSHESHIGza TIMES BADrUGqMr TIMES LAGAByME PLUS DAySHA3yUrBINrUMt TIMES ",
     "KASKALzbPAqNr GUNUqRr CROSSING URsSHESHIGr2s TIMES A PLUS HAzhNAzbLzaHAzaNUNzaU2zc PLUS ASHz",
     "iBIr4rIs3rUs TIMES AzbSHGABzaBARzaDUNzaGAzcLzcN2 TENUzcRzbUzaHAzaIGIzbMzbSHzaKIzaLUMzaMINzaP",
     "AzaSHEzbIG4zaTUzaU PLUS GUDzbDzbRUDAsDAu TIMES UqSHs TIMES AzaKUzcRzaTAK4sXs2sUMXqTUKIqZ3s T",
     "IMES KASKALrUpZAr TENUsSQUARED TIMES KURrGrMXqE2qIr OVER ZIr3rBs KABA TENUrGrZ2qUr5s TIMES A",
     "rBURrMpKAP ELAMITEpAB TIMES NUNr2 TIMES AqMAR TIMES KUGpDAG KISIM5 TIMES U2 PLUS MASHs3qISH ",
     "PLUS SHUqUB TIMES SHEpEZEN TIMES GUDzbSHEpGA2 TIMES AN PLUS KAK PLUS AzbSH2qE22qIGpHUSHpKA T",
     "IMES ANSHEzaSH3yGISHzaUDyHI TIMES ASH2yLUMyPAySHULyTUyUR2pLAGAB TIMES GIqU2 SHESHIG TIMES BA",
     "DtTIMES ESH2 PLUS LALzaSHUpMESHqUSH3 TIMES ZApNA4qINs9sDA2 TIMES BALzdGIqU11 ROTATED NINETY ",
     "DEGREESpPESH2 ASTERISKqIR2pSAG TIMES IGI GUNUpTI2pUM TIMES MEq U"]⟩,
   ⟨74752, ["aCUNEIFORM NUMERIC SIGN TWO ASHyHREE ASHxFOUR ASHyIVE ASHxSIX ASHyEVEN ASHxEIGHT ASHx",
     "NINE ASHxTHREE DISHxFOUR DISHyIVE DISHxSIX DISHyEVEN DISHxEIGHT DISHxNINE DISHxFOUR UyIVE Ux",
     "SIX UyEVEN UxEIGHT UxNINE UxONE GESH2xTWO GESH2yHREE GESH2xFOUR GESH2yIVE GESH2xSIX GESH2yEV",
     "EN GESH2xEIGHT GESH2xNINE GESH2xONE GESHUxTWO GESHUyHREE GESHUxFOUR GESHUyIVE GESHUxTWO SHAR",
     "2yHREE SHAR2zj VARIANT FORMxFOUR SHAR2yIVE SHAR2xSIX SHAR2yEVEN SHAR2xEIGHT SHAR2xNINE SHAR2",
     "xONE SHARUxTWO SHARUyHREE SHARUzj VARIANT FORMxFOUR SHARUyIVE SHARUxSHAR2 TIMES GAL PLUS DIS",
     "HztMINxONE BURUxTWO BURUyHREE BURUzi VARIANT FORMxFOUR BURUyIVE BURUxTHREE VARIANT FORM ESH1",
     "6zu21xFOUR VARIANT FORM LIMMUzv4zv AzwBxSIX VARIANT FORM ASH9yEVEN VARIANT FORM IMIN3zv AzwB",
     "xEIGHT VARIANT FORM USSUzv3xNINE VARIANT FORM ILIMMUzw3zw4zw AxTWO ASH TENUyHREE ASH TENUxFO",
     "UR ASH TENUyIVE ASH TENUxSIX ASH TENUxONE BAN2xTWO BAN2yHREE BAN2xFOUR BAN2zh VARIANT FORMyI",
     "VE BAN2zh VARIANT FORMxNIGIDAMINzeESHxONE ESHE3xTWO ESHE3xONE THIRD DISHxTWO THIRDS DISHxFIV",
     "E SIXTHS DISHxONE THIRD VARIANT FORM AxTWO THIRDS VARIANT FORM AxONE EIGHTH ASHzcQUARTER ASH",
     "yLD ASSYRIAN ONE SIXTHzpQUARTERyNE QUARTER GURzcHALF GURxELAMITE ONE THIRDzgTWO THIRDSzgFORT",
     "YzhIFTYxFOUR U VARIANT FORMyIVE U VARIANT FORMxSIX U VARIANT FORMyEVEN U VARIANT FORMxEIGHT ",
     "U VARIANT FORMxNINE U VARIANT FORM"]⟩,
   ⟨74864, ["aCUNEIFORM PUNCTUATION SIGN OLD ASSYRIAN WORD DIVIDERzcVERTICAL COLONzcDIAGONAL COLON",
     "zlTRICOLONzlQUADCOLON"]⟩,
   ⟨74880, ["aCUNEIFORM SIGN AB TIMES NUN TENUySHU2qD TIMES ESH2pBAD TIMES DISH TENUrHAR2 TIMES AB",
     "2zdNIzdZAqU OVER BU TIMES NA2pDA TIMES TAK4rG TIMES KURqIM TIMES IGIzaU U Us2 TIMES UDqUG TI",
     "MES ANSHEzbSHzd AT LEFTzaDINzbUNzaERIN2zaGAzbIzcR2 GUNUzcSHzaHAzbIzaIGI GUNUzaKASKALzbURzcSH",
     "U2zg PLUS KASKALzaLAK-020zcMzd TIMES KURzbUH PLUS GISHzaMASHzbESzbIzaNIzaPIzaSHEzbI GUNUpE2 ",
     "TIMES KURyPAPqRIN2 XqSH2 CROSSING ESH2qZEN SHESHIG TIMES ASHzjHIzjIGI GUNUzjLAzlLzjMEzlSzjSU",
     "uTIMES SUpGA2 TIMES BAHAR2zaDIM GUNUzbUG TIMES IGI GUNUzkKASKALzaERENzaGAzcR PLUS DIzjNEzaHA",
     " PLUS AzaKUSHU2 PLUS KASKALzaLAMzd TIMES KURzbUHzaMUSHzaNEzc PLUS E2ziGIzaSHIMzaZIZ2rBA ROTA",
     "TED NINETY DEGREESqESHTIN TIMES UqISH TIMES GISH CROSSING GISHqU2 TIMES IGI GUNUrD PLUS GISH",
     " TIMES TAK4pHA TENU GUNUqI TIMES ASH OVER HI TIMES ASHpKA TIMES BUyKAyU U UzaRpLAGAB TIMES Z",
     "U OVER ZUrK-003u21v5u30u50v1u62u79 OVER LAK-079 GUNUu80v1 OVER LAK-081u92t130u42t210v9u20v5v",
     "8u38u65v6t343v7v8u83v4u90t441v9w TIMES GUzeIGIzePAP PLUS LU3znPAP PLUS LU3zeU2 PLUS BAu50v7u",
     "70u83u90v2v3v5t550t608u17w TIMES ASHzeBADzeDUN3 GUNU GUNUzeKU3zeLAzeTARzfEzeU2zfDzfRUDAu36u4",
     "8w TIMES DUBzeGAzeIGIzh GUNUzeNIzePAP PLUS PAP PLUS LU3zeSHESH PLUS KIzeUDzfRUDAt724u49qU2 G",
     "UNU TIMES ASHtTIMES DISHzaHALzaPAPzd PLUS PAP PLUS LU3zaTAK4pMI PLUS ZA7qUSH OVER MUSH TIMES",
     " GAzlKAKpNINDA2 TIMES DIM GUNUzdGISHzeULzdHIzdKESH2zdLAK-050zdMASHzdPAP PLUS PAPzdUze PLUS U",
     "zeRUDApSAG GUNU TIMES HAtTIMES ENzaSHE AT LEFTzaTAK4qHA6 TENUrE OVER SHEtPLUS HUB2yNAM2ySARr",
     "U2 PLUS DUG TIMES NIzaE2 TIMES ANqI TIMES TAK4pTAK4 PLUS SAGqUM TIMES GAN2 TENUzaTHREE DISHp",
     "UR2 INVERTEDtTIMES UDrU TIMES DARA3zaLAK-668zbU3pZA7qU OVER ZU PLUS SARr5 TIMES THREE DISH T",
     "ENU"]⟩,
   ⟨77712, ["aCYPRO-MINOAN SIGN CM001w2w4w5w6w7w8w9v10w1w2xBw3w5w7w9v21w3w4w5w6w7w8w9v30w3w4w5w6w7",
     "w8w9v40w1w4w6w7w9v50w1w2w3w4w5w6w8w9v60w1w2w3w4w6w7w8w9v70w1w2w3w4w5xBw6w8w9v80w1w2w3w4w5w6w",
     "7w8w9v90w1w2w4w5w6w7w8w9u100w1w2w3w4w5w7w8w9v10w2w4u301w2"]⟩,
   ⟨77824, ["aEGYPTIAN HIEROGLYPH A001x2x3x4x5yAx6yAyBx7x8x9w10x1x2x3x4yAx5x6x7yAx8x9w20x1x2x3x4x5",
     "x6x7x8x9w30x1x2yAx3x4x5x6x7x8x9w40yAx1x2yAx3yAx4x5yAx6x7x8x9w50x1x2x3x4x5x6x7x8x9w60x1x2x3x4",
     "x5x6x7x8x9w70uB001x2x3x4x5yAx6x7x8x9uC001x2yAyByCx3x4x5x6x7x8x9w10yAx1x2x3x4x5x6x7x8x9w20x1x",
     "2x3x4uD001x2x3x4x5x6x7x8yAx9w10x1x2x3x4x5x6x7x8x9w20x1x2x3x4x5x6x7yAx8x9w30x1yAx2x3x4yAx5x6x",
     "7x8x9w40x1x2x3x4x5x6yAx7x8yAx9w50yAyByCyDyEyFyGyHyIx1x2yAx3x4yAx5x6x7x8x9w60x1x2x3x4x5x6x7yA",
     "yByCyDyEyFyGyHuE001x2x3x4x5x6x7x8yAx9yAw10x1x2x3x4x5x6yAx7yAx8x9w20yAx1x2x3x4x5x6x7x8yAx9w30",
     "x1x2x3x4yAx6x7x8uF001yAx2x3x4x5x6x7x8x9w10x1x2x3yAx4x5x6x7x8x9w20x1yAx2x3x4x5x6x7x8x9w30x1yA",
     "x2x3x4x5x6x7yAx8yAx9w40x1x2x3x4x5yAx6yAx7yAx8x9w50x1yAyByCx2x3uG001x2x3x4x5x6yAx7yAyBx8x9w10",
     "x1yAx2x3x4x5x6x7x8x9w20yAx1x2x3x4x5x6yAx7x8x9w30x1x2x3x4x5x6yAx7yAx8x9w40x1x2x3yAx4x5yAx6x7x",
     "8x9w50x1x2x3x4uH001x2x3x4x5x6yAx7x8uI001x2x3x4x5yAx6x7x8x9yAw10yAx1yAx2x3x4x5uK001x2x3x4x5x6",
     "x7x8uL001x2yAx3x4x5x6yAx7x8uM001yAyBx2x3yAx4x5x6x7x8x9w10yAx1x2yAyByCyDyEyFyGyHx3x4x5yAx6yAx",
     "7yAx8x9w20x1x2yAx3x4yAx5x6x7x8yAx9w30x1yAx2x3yAyBx4x5x6x7x8x9w40yAx1x2x3x4uN001x2x3x4x5x6x7x",
     "8x9w10x1x2x3x4x5x6x7x8yAyBx9w20x1x2x3x4x5yAx6x7x8x9w30x1x2x3yAx4yAx5yAx6x7yAx8x9w40x1x2vL001",
     "y2y3y4y5zaAy6y7y8y9x10y1y2y3y4y5y6y7zaAy8y9x20vU001y2y3y4y5y6y7y8y9x10zaAy1zaAy2y3y4y5y6y7y8",
     "zaAy9x20y1y2zaAuO001yAx2x3x4x5yAx6yAyByCyDyEyFx7x8x9w10yAyByCx1x2x3x4x5x6x7x8x9yAw20yAx1x2x3",
     "x4yAx5yAx6x7x8x9yAw30yAx1x2x3yAx4x5x6yAyByCyDx7x8x9w40x1x2x3x4x5x6x7x8x9w50yAyBx1uP001yAx2x3",
     "yAx4x5x6x7x8x9w10x1uQ001x2x3x4x5x6x7uR001x2yAx3yAyBx4x5x6x7x8x9w10yAx1x2x3x4x5x6yAx7x8x9w20x",
     "1x2x3x4x5x6x7x8x9uS001x2yAx3x4x5x6yAx7x8x9w10x1x2x3x4yAyBx5x6x7yAx8x9w20x1x2x3x4x5x6yAyBx7x8",
     "x9w30x1x2x3x4x5yAx6x7x8x9w40x1x2x3x4x5x6uT001x2x3yAx4x5x6x7yAx8yAx9yAw10x1yAx2x3x4x5x6yAx7x8",
     "x9w20x1x2x3x4x5x6x7x8x9w30x1x2yAx3yAx4x5x6uU001x2x3x4x5x6yAyBx7x8x9w10x1x2x3x4x5x6x7x8x9w20x",
     "1x2x3yAx4x5x6x7x8x9yAw30x1x2yAx3x4x5x6x7x8x9w40x1x2uV001yAyByCyDyEyFyGyHyIx2yAx3x4x5x6x7yAyB",
     "x8x9w10x1yAyByCx2yAyBx3x4x5x6x7x8x9w20yAyByCyDyEyFyGyHyIyJyKyLx1x2x3yAx4x5x6x7x8yAx9yAw30yAx",
     "1yAx2x3yAx4x5x6x7yAx8x9w40yAuW001x2x3yAx4x5x6x7x8x9yAw10yAx1x2x3x4yAx5x6x7yAx8yAx9w20x1x2x3x",
     "4yAx5uX001x2x3x4yAyBx5x6yAx7x8yAuY001yAx2x3x4x5x6x7x8uZ001x2yAyByCyDx3yAyBx4yAx5yAx6x7x8x9w1",
     "0x1x2x3x4x5yAyByCyDyEyFyGyHyIx6yAyByCyDyEyFyGyHuAA001y2y3y4y5y6y7zaAzaBy8y9x10y1y2y3y4y5y6y7",
     "y8y9x20y1y2y3y4y5y6y7y8y9x30y1y2"]⟩,
   ⟨78896, ["aEGYPTIAN HIEROGLYPH VERTICAL JOINERuHORIZONTAL JOINERuINSERT AT TOP STARTzfBOTTOM ST",
     "ARTzfTOP ENDzfBOTTOM ENDuOVERLAY MIDDLEuBEGIN SEGMENTuEND SEGMENT"]⟩,
   ⟨82944, ["aANATOLIAN HIEROGLYPH A001y2y3y4y5y6y7y8y9x10zaAy1y2y3y4y5y6y7y8y9x20y1y2y3y4y5y6zaAy",
     "7y8y9x30y1y2y3y4y5y6y7y8y9zaAx40y1zaAy2y3y4y5zaAy6zaAzaBy7y8y9x50y1y2y3y4y5y6y7y8y9x60y1y2y3",
     "y4y5y6zaAzaBzaCy7y8y9x70y1y2y3y4y5y6y7y8y9x80y1y2y3y4y5y6y7y8y9x90y1y2y3y4y5y6y7zaAy8zaAy9w1",
     "00zaAy1zaAy2zaAy3y4zaAzaBzaCy5zaAzaBy6y7zaAzaBzaCy8y9x10zaAzaBy1y2y3y4y5zaAy6y7y8y9x20y1y2y3",
     "y4y5zaAy6y7y8y9x30y1y2y3y4y5zaAy6y7y8y9x40y1y2y3y4y5y6y7y8y9x50y1y2y3y4y5y6y7y8y9x60y1y2y3y4",
     "y5y6y7y8y9x70y1y2y3y4y5y6y7y8y9x80y1y2y3y4y5y6y7y8y9x90y1y2y3y4y5y6y7y8y9w200y1y2zaAzaBy3y4y",
     "5y6y7zaAy8y9zaAx10y1y2y3y4y5zaAy6zaAy7y8y9x20y1y2y3y4y5y6y7zaAy8y9x30y1y2y3y4y5y6y7y8y9x40y1",
     "y2y3y4y5y6y7y8y9x50y1y2y3y4y5y6y7y8y9x60y1y2y3y4y5y6y7zaAy8y9x70y1y2y3y4y5y6y7y8y9x80y1y2y3y",
     "4y5y6y7y8y9zaAx90y1y2y3y4zaAy5y6y7y8y9zaAw300y1y2y3y4y5y6y7y8y9zaAx10y1y2y3y4y5y6y7y8y9x20y1",
     "y2y3y4y5y6y7y8y9zaAx30y1y2AzaBzaCy3y4y5y6zaAzaBzaCy7y8y9x40y1y2y3y4y5y6y7y8y9x50y1y2y3y4y5y6",
     "y7y8y9zaAx60y1y2y3y4zaAy5y6y7y8zaAy9x70y1zaAy2y3y4y5y6y7y8y9x80y1zaAy2y3 RA OR RIzaAy4y5y6za",
     "Ay7y8y9x90y1y2y3 EIGHTy4y5y6y7y8y9w400y1y2y3y4y5y6y7y8y9x10 BEGIN LOGOGRAM MARKzaA END LOGOG",
     "RAM MARKy1y2y3y4y5y6y7y8y9x20y1y2y3y4y5y6y7y8y9x30y1y2y3y4y5y6y7y8y9x40y1y2y3y4y5y6y7y8y9x50",
     "zaAy1y2y3y4y5y6y7zaAy8y9x60y1y2y3y4y5y6y7y8y9x70y1y2y3y4y5y6y7y8y9x80y1y2y3y4y5y6y7y8y9x90y1",
     "y2y3y4y5y6y7w501y2y3y4y5y6y7y8y9x10y1y2y3y4y5y6y7y8y9x20y1y2y3y4y5y6y7y8y9x30"]⟩,
   ⟨92160, ["aBAMUM LETTER PHASE-A NGKUE MFONvGBIEE FONvPON MFON PIPAEMGBIEEzlBAvNAA MFONvSHUENSHU",
     "ETvTITA MFONvNZA MFONvSHINDA PA NJIvPON PA NJI PIPAEMGBIEEznBAvMAEMBGBIEEvTU MAEMBAvNGANGUvM",
     "AEMVEUXxNSUAEwVEUAENGAMvSEUNYAMvNTOQPENvKEUKEUTNDAvNKINDIvSUUvNGKUENZEUMvLAPAQwET KUTvNTAP M",
     "FAAvMAEKEUPvPASHAEvGHEUAERAEvPAMSHAEvMON NGGEUAETvNZUN MEUTvU YUQ NAEvGHEUAEGHEUAEvNTAP NTAA",
     "vSISAvMGBASAwEUNJOMNDEUQwOOMPUQvKAFAvPA LEERAEWAvNDA LEERAEWAvPETvMAEMKPENvNIKAvPUPvTUAEPvLU",
     "AEPvSONJAMvTEUTEUWENvMAENYIvKETvNDAANGGEUAETvKUOQvMOOMEUTvSHUMvLOMMAEvFIRIvROMvKPOQvSOQvMAP ",
     "PIEETvSHIRAEvNTAPvSHOQ NSHUT YUMvNYIT MONGKEUAEQvPAARAEvNKAARAEvUNKNOWNvNGGENvMAESIvNJAMvMBA",
     "NYIvNYETvTEUAENvSOTvPAAMvNSHIEEvMAEMvNYIvKAQvNSHAvVEEvLUvNENwAQvMBAQtB NSHUETvTU MAEMGBIEEvS",
     "IEEwET TUvLOM NTEUMvMBA MAELEEvKIEEMvYEURAEvMBAARAEvKAMvPEESHIvYAFU LEERAEWAvLAM NSHUT NYAMv",
     "NTIEE SHEUOQwDU NJAAvGHEUGHEUAEMvPITvTU NSIEEvSHET NJAQyUAEQTUvMFON TEUAEQwBIT MBAAKETvNYI N",
     "TEUMvKEUPUQvGHEUGHENvKEUYEUXvLAANAEvPARUMvVEUMvNGKINDI MVOPxGEU MBUvWUAETvSAKEUAEvTAAMvMEUQv",
     "NGGUOQzc LARGEvMFIYAQvSUEvMBEURIwONTIEENvNYAEMAEvPUNGAAMvMEUT NGGEETvFEUXvMBUOQvFEEvKEUAEMvM",
     "A NJEUAENAzbUQAvLETvNGGAAMwSENvMAvKIQvNGOMtC NGKUE MAEMBAwZAvYUMvWANGKUOQvNGGENwDEUAEREEwGKA",
     "QvGHARAEvMBEEKEETvGBAYIvNYIR MKPARAQ MEUNwTU MBITvMBEUMvPIRIEENvNDOMBUvMBAA CABBAGE-TREEvKEU",
     "SHEUAEPvGHAPvKEUKAQvYU MUOMAEvNZEUMvMBUEvNSEUAENvMBITvYEUQvKPARAQwAAvSEUXvNDIDAvTAASHAEvNJUE",
     "QvTITA YUEvSUAETvNGGUAEN NYAMvVEUXvNANSANAQvMA KEUAERIvNTAAwGGUONvLAPvMBIRIEENwGBASAQvNTEUNG",
     "BAvTEUTEUXvNGGUMvFUEvNDEUTwSAxHAQvBUNGvVEUAEPENvMBERAEvRUvNJAEMvLAMvTITUAEPvNSUOT NGOMwJEEEE",
     "vKETvNGGUvMAESIwBUAEMvLUvKUTvNJAMwGOMvWUPvNGGUEETwSOMwTENvKUOP NKAARAEvNSUNwDAMvMA NSIEEvYAA",
     "vNDAPvSHUEQwETFONvMBIwAEMBAwBANYIvKEUSEUXvMBEUXvKEUMvMBAA PICKETvYUWOQvNJEUXvMIEEwUAEvSHIQvK",
     "EN LAWzaFATIGUEvNGAQwAQvLIQvPINwENvTETtD MBUOvWAPvNJIvMFONvNJIEEvLIEEvNJEUTwSHEEwGGAAMAEwYAM",
     "vWUAENvNGKUNvSHEEvNGKAPvKEUAETMEUNvTEUTvSHEUAEvNJAPvSUEvKETvYAEMMAEvKUOMvSAPvMFEUTvNDEUXvMAL",
     "EERIwEUTvSEUAEQvYENvNJEUAEMvKEUOT MBUAEvNGKEURIvTUvGHAAvNGKYEEvFEUFEUAETvNDEEvMGBOFUMvLEUAEP",
     "vNDONvMONIwGBEUNvPUUTvMGBIEEwFOvLUMvNSIEEPvMBAAvKWAETvNYETvTEUAENvSOTvYUWOQvKEUMvRAEMvTEEEEv",
     "NGKEUAEQvMFEUAEvNSIEETvKEUPvPIPwEUTAEvNYUEvLETvNGGAAMvMFIEEvNGGWAENvYUOMvPAPvYUOPvNDAMwTEUMv",
     "SUAEvKUNvNGGEUXxKIEEvTUOTvMEUNvKUQvNSUMvTEUNvMAENJETvNGGAPvLEUMvNGGUOMwSHUTwJUEQvGHEUAEvKUvR",
     "EN OLDvTAEwOQvNYIvRIIvLEEEEvMEEEEwvSUUvMUvSHIIxEUXvKYEEvNUvSHUvNTEEvPEEvNIvSHOQvPUQvMVOPvLOQ",
     "vREN MUCHvTIvNTUUvMBAA SEVENvSAQvFAAtE NDAPvTOONvMBEUMvLAPvVOMvLOONvPAAvSOMvRAQvNSHUOPwDUNvP",
     "UAEvTAMvNGKAvKPEUXvWUOvSEEvNGGEUAETvPAAMvTOOvKUOPvLOMvNSHIEEwGOPvMAEMvNGKEUXxOQwSHUEvRIMGBAv",
     "NJEUXvPEEMvSAAvNGGURAEvMGBAvGHEUXvNGKEUAEMwJAEMLIvMAPvLOOTvNGGEEEEwDIQvTAEN NTEUMvSETvPUMvND",
     "AA SOFTNESSwGGUAESHAE NYAMvYIEEvGHEUNvTUAEvYEUAEvPOvTUMAEvKEUAEvSUAENvTEUAEQvVEUAEvWEUXvLAAM",
     "vPUvTAAQvGHAAMAEvNGEUREUTvSHEUAEQvMGBENwBEEvNZAQwKOMvGBETvTUMvKUETvYAPvNYI CLEAVERvYITvMFEUQ",
     "vNDIAQvPIEEQvYUEQvLEUAEMvFUEvGBEUXvNGKUPvKETvMAEvNGKAAMIvGHETvFAvNTUMvPEUTvYEUMvNGGEUAEwYI B",
     "ETWEENwZUQvPOONvMIEEvFUETvNAEvMUAEvGHEUAEvFU IvMVIvPUAQvNGKUMvKUTvPIETvNTAPvYEUAETvNGGUPvPA ",
     "PEOPLEvFU CALLwOMvNJEEvAvTOQvOvIvLAQvPA PLURALvTAAxQvNDAA MY HOUSEvSHIQvYEUXvNGUAEvYUAENwOQ ",
     "SWIMMINGzaCOVERwUQxNvKEUXvPEUXvNJEE EPOCHvPUEvWUEvFEEvVEEvLUvMIvREUXwAEvNGUAETxAvSHOyQvFU RE",
     "MEDYvNAvPIvLOQvKOvMENwAxQvTEUvKIvMONvTENvFAQvGHOMtF KAvUvKUvEEvREEvTAEvNYIvLAvRIIxEEvMEEEEvT",
     "AAvNDAAwJAEMvMvSUUwHIIwIwEUXvKYEEwETvNUAExwJUAEvYOQvSHUvYAvNSHAvPEUXvNTEEvWUEvPEEvRUvNIvREUX",
     "vKENvNGKWAENxGAvSHOvPUAEvFOMvWAvLIwOQvKOvMBENvRENvMAwOwBAAvTETvKPAvSAMBAvVUEQ"]⟩,
   ⟨92736, ["aMRO LETTER TAlNGIlYOlMIMlBAlDAlAlPHIlKHAIlHAOlDAIlCHUlKEAAElOLlMAEMlNINlPAlOOmlROlSH",
     "IlTHEAlEAlWAlElKOlLANnlHAIlRIlTEK"]⟩,
   ⟨92768, ["aMRO DIGIT ZEROkONEkTWOlHREEkFOURlIVEkSIXlEVENkEIGHTkNINE"]⟩,
   ⟨92782, ["aMRO DANDAfOUBLE DANDAaTANGSA LETTER OZpCpQpXoAZpCpQpXoVZpCpQpXoEZpCpQpXoIZpCpQpXoUZp",
     "CpQpXoAWZqCqQqXoUIZqCqQqXoFINAL NGoLONG UEXoSHORT UEZuAWXoUECqZqQqXpIUZrCrQrXoMZpCpQpXoKApHA",
     "oGAoNGAoSAoYAoWAoPAoNYAoPHAoBAoMAoNAoHAoLAoHTAoTAoDAoRAoNHAoSHAoCAoTSAoGHAoHTTAoTHAoXAoFAoDH",
     "AoCHAoZA"]⟩,
   ⟨92864, ["aTANGSA DIGIT ZEROnONEnTWOoHREEnFOURoIVEnSIXoEVENnEIGHTnNINE"]⟩,
   ⟨92880, ["aBASSA VAH LETTER ENNIrKArSErFArMBErYIErGAHrDHIIrKPAHrJOrHWAHrWArZOrGBUrDOrCErUWUrTOr",
     "BArVUrYEINrPArWADDArArOsOrUrEEsrI"]⟩,
   ⟨92912, ["aBASSA VAH COMBINING HIGH TONEuLOW TONEuMID TONEuLOW-MID TONEuHIGH-LOW TONEkFULL STO",
     "P"]⟩,
   ⟨92928, ["aPAHAWH HMONG VOWEL KEEBwVuIBvVuAUBwVuUBvVuEBvVuAIBwVuOOBwVuAWBwVuUABwVuOBvVuIABwVuAB",
     "vVuWBvVuAABwVnCONSONANT VAUxNTSAUxLAUxHAUxNLAUxRAUxNKAUxQHAUxYAUxHLAUxMAUxCHAUxNCHAUxHNAUxPL",
     "HAUxNTHAUyAUxAUxXAUxCAUnMARK CIM TUBwSOwKESxHAVwSUAMwHOMwTAUMnSIGN VOS THOMxSHAB CEEBsCIM CH",
     "EEMsVOS THIABwFEEMsXYEEM NTXIVyRHOyTOVyFAIBsVOS SEEVsMEEJ SUABsVOS NRUAsIB YAMsXAUSsCIM TSOV",
     " ROG"]⟩,
   ⟨93008, ["aPAHAWH HMONG DIGIT ZEROtONEtTWOuHREEtFOURuIVEtSIXuEVENtEIGHTtNINE"]⟩,
   ⟨93019, ["aPAHAWH HMONG NUMBER TENSuHUNDREDSuTEN THOUSANDSuMILLIONSuHUNDRED MILLIONSuTEN BILLIO",
     "NSvRILLIONS"]⟩,
   ⟨93027, ["aPAHAWH HMONG SIGN VOS LUBsXYOOsHLIsTHIRD-STAGE HLIsZWJ THAJsHNUBsNQIGsXIABsNTUJsAVsT",
     "XHEEJ CEEVsMEEJ TSEEBsTAUsLOSsMUSsCIM HAIS LUS NTOG NTOGwCUAM TSHOOJwTXWVzb CHWVwPUB DAWBwNR",
     "ES TOS"]⟩,
   ⟨93053, ["aPAHAWH HMONG CLAN SIGN TSHEEJxYEEGxLISyAUJxXYOOJxKOOxHAWJxMUASxTHOJySABxPHABxKHABxHA",
     "MxVAJxFAJxYAJxTSWBxKWMxVWJ"]⟩,
   ⟨93760, ["aMEDEFAIDRIN CAPITAL LETTER MzcSzcVzcWzcATIUzcZzcKPzcPzcTzcGzcFzcIzcKzcAzcJzcEzcBzcCz",
     "cUzcYUzcLzcQzcHPzcNYzcXzcDzcOEzcNzcRzcOzcAIzcYmSMALL LETTER MzaSzaVzaWzaATIUzaZzaKPzaPzaTzaG",
     "zaFzaIzaKzaAzaJzaEzaBzaCzaUzaYUzaLzaQzaHPzaNYzaXzaDzaOEzaNzaRzaOzaAIzaYmDIGIT ZEROsONEsTWOtH",
     "REEsFOURtIVEsSIXtEVENsEIGHTsNINEmNUMBER TENtELEVENtTWELVEuHIRTEENtFOURTEENuIFTEENtSIXTEENuEV",
     "ENTEENtEIGHTEENtNINETEENmDIGIT ONE ALTERNATE FORMsTWO ALTERNATE FORMtHREE ALTERNATE FORMmCOM",
     "MAmFULL STOPmSYMBOL AIVAmEXCLAMATION OH"]⟩,
   ⟨93952, ["aMIAO LETTER PAmBAmYI PAmPLAmMAnHAmARCHAIC MAmFAmVAnFAmTAmDAmYI TTAqAmTTAmDDAmNAnHAmY",
     "I NNAmARCHAIC NAmNNAoHAmLAnYAnHAoYAmTLHAmDLHAmTLHYAmDLHYAmKAmGAmYI KAmQAnGAmNGAoHAmARCHAIC N",
     "GAmHAmXAmGHAoHAmTSSAmDZZAmNYAoHAmTSHAmDZHAmYI TSHApDZHAmREFORMED TSHAmSHAnSAmZHAnSHAmTSAmDZA",
     "mYI TSAmSAmZAnSAnZAoSAmARCHAIC ZZAmZZYAoSYAmWAmAHmHHAmBRImSYImDZYImTEnSEmRTE"]⟩,
   ⟨94031, ["aMIAO SIGN CONSONANT MODIFIER BARfLETTER NASALIZATIONfSIGN ASPIRATIONkREFORMED VOICIN",
     "GtASPIRATIONfVOWEL SIGN ArArHHrNsGqOrOqWOrqErNsGqOEYqIrAsNtGrOrErIrUrNGqUrAsNtGrUrEIrNGqYrIq",
     "AEsEqERRqROUNDED ERRqERqROUNDED ERqAIqEIqAUqOUqNrGqUOGqYUIqOGrERqVWqIGqEAqIONGqUI"]⟩,
   ⟨94095, ["aMIAO TONE RIGHTkTOP RIGHTkABOVEkBELOWfLETTER TONE-2r3r4r5r6r7r8mREFORMED TONE-1zb2zb",
     "4zb5zb6zb8"]⟩,
   ⟨94176, ["aTANGUT ITERATION MARKaNUSHU ITERATION MARKaOLD CHINESE HOOK MARKmITERATION MARKaKHIT",
     "AN SMALL SCRIPT FILLER"]⟩,
   ⟨94192, ["aVIETNAMESE ALTERNATE READING MARK CAzjNHAY"]⟩,
   ⟨100352, ["aTANGUT COMPONENT-001t2t3t4t5t6t7t8t9s10t1t2t3t4t5t6t7t8t9s20t1t2t3t4t5t6t7t8t9s30t1",
     "t2t3t4t5t6t7t8t9s40t1t2t3t4t5t6t7t8t9s50t1t2t3t4t5t6t7t8t9s60t1t2t3t4t5t6t7t8t9s70t1t2t3t4t5",
     "t6t7t8t9s80t1t2t3t4t5t6t7t8t9s90t1t2t3t4t5t6t7t8t9r100t1t2t3t4t5t6t7t8t9s10t1t2t3t4t5t6t7t8t",
     "9s20t1t2t3t4t5t6t7t8t9s30t1t2t3t4t5t6t7t8t9s40t1t2t3t4t5t6t7t8t9s50t1t2t3t4t5t6t7t8t9s60t1t2",
     "t3t4t5t6t7t8t9s70t1t2t3t4t5t6t7t8t9s80t1t2t3t4t5t6t7t8t9s90t1t2t3t4t5t6t7t8t9r200t1t2t3t4t5t",
     "6t7t8t9s10t1t2t3t4t5t6t7t8t9s20t1t2t3t4t5t6t7t8t9s30t1t2t3t4t5t6t7t8t9s40t1t2t3t4t5t6t7t8t9s",
     "50t1t2t3t4t5t6t7t8t9s60t1t2t3t4t5t6t7t8t9s70t1t2t3t4t5t6t7t8t9s80t1t2t3t4t5t6t7t8t9s90t1t2t3",
     "t4t5t6t7t8t9r300t1t2t3t4t5t6t7t8t9s10t1t2t3t4t5t6t7t8t9s20t1t2t3t4t5t6t7t8t9s30t1t2t3t4t5t6t",
     "7t8t9s40t1t2t3t4t5t6t7t8t9s50t1t2t3t4t5t6t7t8t9s60t1t2t3t4t5t6t7t8t9s70t1t2t3t4t5t6t7t8t9s80",
     "t1t2t3t4t5t6t7t8t9s90t1t2t3t4t5t6t7t8t9r400t1t2t3t4t5t6t7t8t9s10t1t2t3t4t5t6t7t8t9s20t1t2t3t",
     "4t5t6t7t8t9s30t1t2t3t4t5t6t7t8t9s40t1t2t3t4t5t6t7t8t9s50t1t2t3t4t5t6t7t8t9s60t1t2t3t4t5t6t7t",
     "8t9s70t1t2t3t4t5t6t7t8t9s80t1t2t3t4t5t6t7t8t9s90t1t2t3t4t5t6t7t8t9r500t1t2t3t4t5t6t7t8t9s10t",
     "1t2t3t4t5t6t7t8t9s20t1t2t3t4t5t6t7t8t9s30t1t2t3t4t5t6t7t8t9s40t1t2t3t4t5t6t7t8t9s50t1t2t3t4t",
     "5t6t7t8t9s60t1t2t3t4t5t6t7t8t9s70t1t2t3t4t5t6t7t8t9s80t1t2t3t4t5t6t7t8t9s90t1t2t3t4t5t6t7t8t",
     "9r600t1t2t3t4t5t6t7t8t9s10t1t2t3t4t5t6t7t8t9s20t1t2t3t4t5t6t7t8t9s30t1t2t3t4t5t6t7t8t9s40t1t",
     "2t3t4t5t6t7t8t9s50t1t2t3t4t5t6t7t8t9s60t1t2t3t4t5t6t7t8t9s70t1t2t3t4t5t6t7t8t9s80t1t2t3t4t5t",
     "6t7t8t9s90t1t2t3t4t5t6t7t8t9r700t1t2t3t4t5t6t7t8t9s10t1t2t3t4t5t6t7t8t9s20t1t2t3t4t5t6t7t8t9",
     "s30t1t2t3t4t5t6t7t8t9s40t1t2t3t4t5t6t7t8t9s50t1t2t3t4t5t6t7t8t9s60t1t2t3t4t5t6t7t8"]⟩,
   ⟨110576, ["aKATAKANA LETTER MINNAN TONE-2zd3zd4zd5"]⟩,
   ⟨110581, ["aKATAKANA LETTER MINNAN TONE-7zd8xNASALIZED TONE-1zn2zn3zn4zn5"]⟩,
   ⟨110589, ["aKATAKANA LETTER MINNAN NASALIZED TONE-7zn8"]⟩,
   ⟨110592, ["aKATAKANA LETTER ARCHAIC EaHIRAGANA LETTER ARCHAIC YEbENTAIGANA LETTER A-1u2u3uWOsI-",
     "1u2u3u4sU-1u2u3u4u5sE-2u3u4u5u6sO-1u2u3sKA-1v2v3v4v5v6v7v8v9v10w1vKEtI-1v2v3v4v5v6v7v8tU-1v2",
     "v3v4v5v6v7tE-1v2v3v4v5v6tO-1v2v3vKIsSA-1v2v3v4v5v6v7v8tI-1v2v3v4v5v6tU-1v2v3v4v5v6v7v8tE-1v2",
     "v3v4v5tO-1v2v3v4v5v6v7sTA-1v2v3v4tI-1v2v3v4v5v6v7tU-1v2v3v4vTOtE-1v2v3v4v5v6v7v8v9tO-1v2v3v4",
     "v5v6vRAsNA-1v2v3v4v5v6v7v8v9tI-1v2v3v4v5v6v7vTEtU-1v2v3tE-1v2v3v4v5v6vKOtO-1v2v3v4v5sHA-1v2v",
     "3v4v5v6v7v8v9v10w1tI-1v2v3v4v5v6v7tU-1v2v3tE-1v2v3v4v5v6v7tO-1v2v3v4v5v6v7v8sMA-1v2v3v4v5v6v",
     "7tI-1v2v3v4v5v6v7tU-1v2v3v4tE-1v2vMAtO-1v2v3v4v5v6sYA-1v2v3v4v5vYOtU-1v2v3v4tO-1v2v3v4v5v6sR",
     "A-1v2v3v4tI-1v2v3v4v5v6v7tU-1v2v3v4v5v6tE-1v2v3v4tO-1v2v3v4v5v6sWA-1v2v3v4v5tI-1v2v3v4v5tE-1",
     "v2v3v4tO-1v2v3v4v5v6v7sN-MU-MO-1zb2bIRAGANA LETTER ARCHAIC WUaKATAKANA LETTER ARCHAIC YIzaEy",
     "WU"]⟩,
   ⟨110928, ["aHIRAGANA LETTER SMALL WIxExO"]⟩,
   ⟨110948, ["aKATAKANA LETTER SMALL WIxExOwN"]⟩,
   ⟨113664, ["aDUPLOYAN LETTER HqXqPqTqFqKqLqBqDqVqGqRqP NqD SqF NqK MqR SqTHqSLOAN DHqDHqKKqSLOAN",
     " JqHLqLHqRHqMqNqJqSqM NqN MqJ MqS JqM WITH DOTqN WITH DOTqJ WITH DOTzbS INSIDE AND ABOVEqS W",
     "ITH DOTzb BELOWqM SqN SqJ SqS SqM N SqN M SqJ M SqS J SqJ S WITH DOTsNt SqS Tt RsPt RqT SsR ",
     "SqWrHr RqS NsMqK R SqG R SqS Kt RqAqSLOAN OWqOArqAOUqIqEqIEqSHORT IqUIqEEqSLOAN EHqROMANIAN ",
     "IqSLOAN EEqLONG IqYEqUqEUqXWqU NqLONG UqROMANIAN UqUHqSLOAN UqOOHrWrUqWArOrIrEIrOWqNASAL UwO",
     "wIwAqPERNIN ANyMqSLOAN ENwANwONqVOCALIC M"]⟩,
   ⟨113776, ["aDUPLOYAN AFFIX LEFT HORIZONTAL SECANTpMID HORIZONTAL SECANTpRIGHT HORIZONTAL SECANT",
     "pLOW VERTICAL SECANTpMID VERTICAL SECANTpHIGH VERTICAL SECANTpATTACHED SECANTyLEFT-TO-RIGHT ",
     "SECANTyTANGENTzbILyE HOOKyI HOOKyTANGENT HOOK"]⟩,
   ⟨113792, ["aDUPLOYAN AFFIX HIGH ACUTEuTIGHT ACUTEuGRAVEuLONG GRAVEuDOTuCIRCLEuLINEuWAVEuVERTICA",
     "L"]⟩,
   ⟨113808, ["aDUPLOYAN AFFIX LOW ACUTEtTIGHT ACUTEtGRAVEtLONG GRAVEtDOTtCIRCLEtLINEtWAVEtVERTICAL",
     "tARROW"]⟩,
   ⟨113820, ["aDUPLOYAN SIGN O WITH CROSSjTHICK LETTER SELECTORjDOUBLE MARKjPUNCTUATION CHINOOK FU",
     "LL STOPaSHORTHAND FORMAT LETTER OVERLAPrCONTINUING OVERLAPrDOWN STEPrUP STEP"]⟩]

end FixedExtract.Text
